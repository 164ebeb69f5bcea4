import ViewCompanion.Source.Tree

namespace ViewCompanion

open Source

/-- What a module can name: its imports, the places it imports everything from, and its own
items. -/
structure Scope where
  /-- What a name stands for, as written; the latest import of a name comes first. -/
  imports : List (String × List String)
  globs : List (List String)
  /-- The names of the types and traits of the module itself. -/
  locals : List String
  deriving Repr, Inhabited

namespace Scope

def empty : Scope := ⟨[], [], []⟩

def import? (s : Scope) (name : String) : Option (List String) :=
  s.imports.lookup name

def addImport (s : Scope) (name : String) (target : List String) : Scope :=
  { s with imports := (name, target) :: s.imports }

def addLocal (s : Scope) (name : String) : Scope :=
  { s with locals := s.locals ++ [name] }

mutual

/-- Adds what a tree below `base` imports. A `self` stands for `base`, and `_` gives no name. -/
def addTree (base : List String) (s : Scope) : UseTree → Scope
  | .path name tree => addTree (base ++ [name]) s tree
  | .name name =>
    if name = "self" then
      match base.getLast? with
      | some last => s.addImport last base
      | none => s
    else s.addImport name (base ++ [name])
  | .rename name newName =>
    let target := if name = "self" then base else base ++ [name]
    if newName = "_" then s else s.addImport newName target
  | .glob => { s with globs := s.globs ++ [base] }
  | .group trees => addTrees base s trees

def addTrees (base : List String) (s : Scope) : List UseTree → Scope
  | [] => s
  | tree :: rest => addTrees base (addTree base s tree) rest

end

def addItem (s : Scope) : Item → Scope
  | .use tree => s.addTree [] tree
  | .struct item => s.addLocal item.name
  | .other name => s.addLocal name
  | .synonym name _ _ => s.addLocal name
  | _ => s

def ofItems (items : List Item) : Scope :=
  items.foldl addItem empty

end Scope

end ViewCompanion
