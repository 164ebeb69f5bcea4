import ViewCompanion.Storage.Path

namespace ViewCompanion

inductive Trouble
  | notFound
  | isFolder
  | notFolder
  | alreadyThere
  /-- The bytes of a file are no text. -/
  | notText
  /-- A folder has no file that a crate begins with. -/
  | noCrate
  | other (text : String)
  deriving DecidableEq, Repr

def Trouble.message : Trouble → String
  | notFound => "No such file or directory (os error 2)"
  | isFolder => "Is a directory (os error 21)"
  | notFolder => "Not a directory (os error 20)"
  | alreadyThere => "File exists (os error 17)"
  | notText => "stream did not contain valid UTF-8"
  | noCrate => "no lib.rs or main.rs"
  | other text => text

structure Storage (m : Type → Type) where
  read : String → m (Except Trouble ByteArray)
  /-- Makes a file, or replaces what is in it. -/
  write : String → ByteArray → m (Except Trouble Unit)
  createFolder : String → m (Except Trouble Unit)
  remove : String → m (Except Trouble Unit)
  entries : String → m (Except Trouble (List String))
  /-- How many folders at most lie inside each other. -/
  depth : m Nat

namespace Storage

variable {m : Type → Type} [Monad m]

def readText (s : Storage m) (path : String) : m (Except Trouble String) := do
  match ← s.read path with
  | .ok bytes =>
    match String.fromUTF8? bytes with
    | some text => pure (.ok text)
    | none => pure (.error .notText)
  | .error trouble => pure (.error trouble)

def has (s : Storage m) (path : String) : m Bool := do
  match ← s.read path with
  | .ok _ => pure true
  | .error .isFolder => pure true
  | .error _ => pure false

def hasFolder (s : Storage m) (path : String) : m Bool := do
  match ← s.read path with
  | .error .isFolder => pure true
  | _ => pure false

/-- Makes a folder; one that is there already will do. -/
def ensureFolder (s : Storage m) (path : String) : m (Except Trouble Unit) := do
  match ← s.createFolder path with
  | .ok () => pure (.ok ())
  | .error trouble => if ← s.hasFolder path then pure (.ok ()) else pure (.error trouble)

def ensureFoldersFor (s : Storage m) : Nat → String → m (Except Trouble Unit)
  | 0, _ => pure (.error .notFound)
  | n + 1, path => do
    if path.isEmpty then pure (.ok ())
    else match ← s.ensureFolder path with
      | .error .notFound =>
        match ← ensureFoldersFor s n ((Path.parent? path).getD "") with
        | .ok () => s.ensureFolder path
        | .error trouble => pure (.error trouble)
      | result => pure result

/-- Makes a folder and the folders around it that are missing. -/
def ensureFolders (s : Storage m) (path : String) : m (Except Trouble Unit) :=
  s.ensureFoldersFor (path.length + 1) path

end Storage

end ViewCompanion
