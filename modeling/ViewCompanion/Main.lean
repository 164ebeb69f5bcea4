import ViewCompanion.CommandLine.Run

namespace ViewCompanion.Disk

/-- Code 20 says that there is a file where a folder should be. Some calls give codes negated. -/
def troubleOf : IO.Error → Trouble
  | .noFileOrDirectory _ _ _ => .notFound
  | .alreadyExists _ _ _ => .alreadyThere
  | .inappropriateType _ code _ => if code = 20 ∨ code = -20 then .notFolder else .isFolder
  | e => .other (toString e)

def attempt (action : IO α) : IO (Except Trouble α) := do
  try
    let a ← action
    pure (.ok a)
  catch e => pure (.error (troubleOf e))

def namesIn (path : String) : IO (List String) := do
  let folder ← IO.FS.realPath path
  let entries ← folder.readDir
  pure (entries.toList.map IO.FS.DirEntry.fileName)

/-- No path of more than 4096 characters leads anywhere, so folders lie inside each other less deep
than that. -/
def storage : Storage IO where
  read path := attempt (IO.FS.readBinFile path)
  write path content := attempt (IO.FS.writeBinFile path content)
  createFolder path := attempt (IO.FS.createDir path)
  remove path := attempt (IO.FS.removeFile path)
  entries path := attempt (namesIn path)
  depth := pure 4096

end ViewCompanion.Disk

open ViewCompanion in
def main (arguments : List String) : IO UInt32 := do
  let environment? ← IO.getEnv "PORBEAGLE_CONFIG"
  let ending ← CommandLine.run Disk.storage environment? arguments
  IO.print ending.console.out
  IO.eprint ending.console.err
  pure ending.code.toUInt32
