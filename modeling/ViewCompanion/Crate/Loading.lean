import ViewCompanion.Crate.Snapshot
import ViewCompanion.Failure

namespace ViewCompanion

open Source

/-- The modules of a crate and the files that they were read from, in order. -/
structure CrateSource where
  modules : List SourceModule
  files : List String
  deriving Repr

namespace CrateSource

def empty : CrateSource := ⟨[], []⟩

def ofModule (m : SourceModule) : CrateSource := ⟨[m], []⟩

def join (parts : List CrateSource) : CrateSource :=
  ⟨parts.flatMap CrateSource.modules, parts.flatMap CrateSource.files⟩

end CrateSource

namespace Storage

variable {m : Type → Type} [Monad m]

def firstOf? (s : Storage m) : List String → m (Option String)
  | [] => pure none
  | path :: rest => do
    if ← s.has path then pure (some path) else firstOf? s rest

/-- Where the items of a module may stand whose file is looked for in `folder`. -/
def moduleFiles (folder name : String) : List String :=
  [Path.join folder (name ++ ".rs"), Path.join (Path.join folder name) "mod.rs"]

def sourceText (s : Storage m) (path : String) : ExceptT Failure m String := do
  match ← s.readText path with
  | .ok text => pure text
  | .error trouble => throw (.storage path trouble)

/-- A file that holds the items of the module `home`, and the files of the modules declared in it;
those are looked for in `folder`. A module without a file is left out. The folder of each module
lies inside the one before, so as many rounds as folders lie inside each other are enough. -/
def loadFile (s : Storage m) : Nat → (file home folder : String) → ExceptT Failure m CrateSource
  | 0, _, _, _ => pure .empty
  | depth + 1, file, home, folder => do
    match itemsOfFile? (← s.sourceText file) with
    | none => throw (.source file)
    | some items =>
      let parts ← (SourceModule.parts ⟨home, items⟩).mapM fun
        | .module inner => pure (.ofModule inner)
        | .file path folders name => do
          let place := folders.foldl Path.join folder
          match ← s.firstOf? (moduleFiles place name) with
          | some inner => loadFile s depth inner path (Path.join place name)
          | none => pure .empty
      pure (.join (⟨[], [file]⟩ :: parts))

def loadCrate (s : Storage m) (c : Config) (folder : String) : ExceptT Failure m CrateSource := do
  match ← s.firstOf? [Path.join folder "lib.rs", Path.join folder "main.rs"] with
  | some file =>
    let depth ← s.depth
    s.loadFile (depth + 1) file c.crateName folder
  | none => throw (.storage folder .noCrate)

end Storage

end ViewCompanion
