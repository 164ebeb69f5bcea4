import ViewCompanion.Storage.Basic

namespace ViewCompanion

/-- A file, or a folder with everything in it. Paths lead from the outermost folder, and nothing is
outside of it. -/
inductive FileTree
  | file (content : ByteArray)
  | folder (entries : List (String × FileTree))
  deriving Inhabited

namespace FileTree

def empty : FileTree := folder []

def isFolder : FileTree → Bool
  | folder _ => true
  | file _ => false

def entryNamed? (name : String) : List (String × FileTree) → Option FileTree
  | [] => none
  | (other, t) :: rest => if other = name then some t else entryNamed? name rest

def setEntry (name : String) (t : FileTree) : List (String × FileTree) → List (String × FileTree)
  | [] => [(name, t)]
  | (other, u) :: rest =>
    if other = name then (name, t) :: rest
    else if name < other then (name, t) :: (other, u) :: rest
    else (other, u) :: setEntry name t rest

def get? (t : FileTree) : List String → Option FileTree
  | [] => some t
  | name :: rest =>
    match t with
    | folder entries => (entryNamed? name entries).bind fun u => get? u rest
    | file _ => none

/-- Puts `new` below folders that are there. -/
def set (new : FileTree) : List String → FileTree → FileTree
  | [], _ => new
  | [name], folder entries => folder (setEntry name new entries)
  | name :: rest, folder entries =>
    match entryNamed? name entries with
    | some t => folder (setEntry name (set new rest t) entries)
    | none => folder entries
  | _ :: _, file content => file content

def erase : List String → FileTree → FileTree
  | [name], folder entries => folder (entries.filter fun e => e.1 != name)
  | name :: rest, folder entries =>
    match entryNamed? name entries with
    | some t => folder (setEntry name (erase rest t) entries)
    | none => folder entries
  | _, t => t

/-- The names from the outermost folder to where a path leads. Everything before its last name has
to be a folder. -/
def follow (t : FileTree) (seen : List String) : List String → Except Trouble (List String)
  | [] => .ok seen
  | name :: rest =>
    match t.get? seen with
    | none => .error .notFound
    | some (file _) => .error .notFolder
    | some (folder _) =>
      if name.isEmpty || name == "." then follow t seen rest
      else if name == ".." then
        if seen.isEmpty then .error .notFound else follow t seen.dropLast rest
      else follow t (seen ++ [name]) rest

def locate (t : FileTree) (path : String) : Except Trouble (List String) :=
  if path.isEmpty || path.startsWith "/" then .error .notFound
  else follow t [] (Storage.Path.names path)

def find (t : FileTree) (path : String) : Except Trouble FileTree := do
  let names ← t.locate path
  match t.get? names with
  | some u => .ok u
  | none => .error .notFound

def read (t : FileTree) (path : String) : Except Trouble ByteArray := do
  match ← t.find path with
  | file content => .ok content
  | folder _ => .error .isFolder

def write (t : FileTree) (path : String) (content : ByteArray) : Except Trouble FileTree := do
  let names ← t.locate path
  match t.get? names with
  | some (folder _) => .error .isFolder
  | _ => .ok (set (file content) names t)

def createFolder (t : FileTree) (path : String) : Except Trouble FileTree := do
  let names ← t.locate (Storage.Path.trimEnd path)
  match t.get? names with
  | some _ => .error .alreadyThere
  | none => .ok (set empty names t)

def remove (t : FileTree) (path : String) : Except Trouble FileTree := do
  let names ← t.locate path
  match t.get? names with
  | some (file _) => .ok (erase names t)
  | some (folder _) => .error .isFolder
  | none => .error .notFound

def entries (t : FileTree) (path : String) : Except Trouble (List String) := do
  match ← t.find path with
  | folder entries => .ok (entries.map Prod.fst)
  | file _ => .error .notFolder

/-- Removes a file, or a folder with everything in it. -/
def removeAll (t : FileTree) (path : String) : FileTree :=
  match t.locate path with
  | .ok names => erase names t
  | .error _ => t

mutual

def depth : FileTree → Nat
  | file _ => 0
  | folder entries => depths entries + 1

def depths : List (String × FileTree) → Nat
  | [] => 0
  | (_, t) :: rest => max (depth t) (depths rest)

end

mutual

/-- The paths below a folder, outer ones first: files with their content, and folders. -/
def listing (path : String) : FileTree → List (String × Option ByteArray)
  | file content => [(path, some content)]
  | folder entries => (path ++ "/", none) :: listings path entries

def listings (path : String) : List (String × FileTree) → List (String × Option ByteArray)
  | [] => []
  | (name, t) :: rest => listing (path ++ "/" ++ name) t ++ listings path rest

end

def inspecting (f : FileTree → Except Trouble α) : StateM FileTree (Except Trouble α) := fun t =>
  (f t, t)

def changing (f : FileTree → Except Trouble FileTree) : StateM FileTree (Except Trouble Unit) :=
  fun t =>
    match f t with
    | .ok u => (.ok (), u)
    | .error trouble => (.error trouble, t)

def storage : Storage (StateM FileTree) where
  read path := inspecting fun t => t.read path
  write path content := changing fun t => t.write path content
  createFolder path := changing fun t => t.createFolder path
  remove path := changing fun t => t.remove path
  entries path := inspecting fun t => t.entries path
  depth := fun t => (t.depth, t)

end FileTree

end ViewCompanion
