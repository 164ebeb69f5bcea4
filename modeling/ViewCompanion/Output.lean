import ViewCompanion.Failure
import ViewCompanion.Generation

namespace ViewCompanion

structure WriteOutcome where
  written : List String
  unchanged : List String
  removed : List String
  deriving DecidableEq, Repr

namespace WriteOutcome

def empty : WriteOutcome := ⟨[], [], []⟩

end WriteOutcome

def Report.files (r : Report) : List (String × String) :=
  r.artifacts.map (fun a => (a.fileName, a.content))
    ++ r.manifests.map fun m => (m.fileName, m.content)

namespace Storage

variable {m : Type → Type} [Monad m]

/-- Names a failure after the path that it is about. -/
def onPath (path : String) (action : m (Except Trouble α)) : ExceptT Failure m α := do
  match ← action with
  | .ok a => pure a
  | .error trouble => throw (.storage path trouble)

/-- Writes a file unless it holds the text already. Says whether it was written. -/
def update (s : Storage m) (path text : String) : ExceptT Failure m Bool := do
  match ← s.readText path with
  | .ok old =>
    if old = text then pure false
    else
      onPath path (s.write path text.toUTF8)
      pure true
  | .error _ =>
    let folder := (Path.parent? path).getD ""
    onPath folder (s.ensureFolders folder)
    onPath path (s.write path text.toUTF8)
    pure true

def updateAll (s : Storage m) (folder : String) (outcome : WriteOutcome) :
    List (String × String) → ExceptT Failure m WriteOutcome
  | [] => pure outcome
  | (name, text) :: rest => do
    if ← s.update (Path.join folder name) text then
      updateAll s folder { outcome with written := outcome.written ++ [name] } rest
    else updateAll s folder { outcome with unchanged := outcome.unchanged ++ [name] } rest

def removeCompanions (s : Storage m) (folder extension : String) (current : List String) :
    ExceptT Failure m (List String) := do
  let names ← onPath folder (s.entries folder)
  let old := names.filter fun name =>
    name.endsWith (Artifact.ending extension) && !current.contains name
  old.forM fun name =>
    let path := Path.join folder name
    onPath path (s.remove path)
  pure old

/-- Removes the files at and below `inner` in `folder` unless they are among `current`. -/
def removeBelow (s : Storage m) (folder : String) (current : List String) :
    Nat → String → ExceptT Failure m (List String)
  | 0, _ => pure []
  | depth + 1, inner => do
    let path := Path.join folder inner
    if ← s.hasFolder path then
      let names ← onPath path (s.entries path)
      let removed ← names.mapM fun name =>
        removeBelow s folder current depth (Path.join inner name)
      pure removed.flatten
    else if current.contains inner then pure []
    else
      onPath path (s.remove path)
      pure [inner]

def removeManifests (s : Storage m) (folder : String) (current : List String) :
    ExceptT Failure m (List String) := do
  if ← s.hasFolder (Path.join folder Manifest.directory) then
    let depth ← s.depth
    s.removeBelow folder current (depth + 1) Manifest.directory
  else pure []

/-- Writes all that a run generated into a folder, and removes what is left of earlier runs. -/
def writeReport (s : Storage m) (folder extension : String) (r : Report) :
    ExceptT Failure m WriteOutcome := do
  onPath folder (s.ensureFolders folder)
  let outcome ← s.updateAll folder .empty r.files
  let companions ← s.removeCompanions folder extension (r.artifacts.map Artifact.fileName)
  let manifests ← s.removeManifests folder (r.manifests.map Manifest.fileName)
  pure { outcome with
    removed := (companions ++ manifests).mergeSort fun a b => decide (a < b) || a == b }

end Storage

end ViewCompanion
