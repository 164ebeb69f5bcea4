import ViewCompanion.Source.Literal
import ViewCompanion.Source.Token

namespace ViewCompanion.Source

structure NamePath where
  /-- Whether it starts at the very top, with `::`. -/
  absolute : Bool
  names : List String
  deriving DecidableEq, Repr

def NamePath.isName (p : NamePath) (name : String) : Bool :=
  !p.absolute && p.names == [name]

def NamePath.name? (p : NamePath) : Option String :=
  match p.absolute, p.names with
  | false, [name] => some name
  | _, _ => none

inductive TypeExpr
  /-- A path, whether its last name has no arguments, and the types among them. -/
  | path (path : NamePath) (bare : Bool) (args : List TypeExpr)
  | paren (inner : TypeExpr)
  /-- A type that is no path, as text. -/
  | other (text : String)
  deriving Repr, Inhabited

/-- A value as written, as far as an argument of an attribute tells values apart. -/
inductive ValueExpr
  | literal (l : Literal)
  /-- A whole number after a minus. -/
  | negated (value : Nat) (text : String)
  | path (path : NamePath)
  | other (text : String)
  deriving DecidableEq, Repr

inductive Meta
  | word
  | list (tokens : List Token)
  | value (v : ValueExpr)
  deriving Repr

structure Attribute where
  path : NamePath
  content : Meta
  deriving Repr

inductive UseTree
  | path (name : String) (rest : UseTree)
  | name (name : String)
  | rename (name newName : String)
  | glob
  | group (trees : List UseTree)
  deriving Repr

structure Field where
  attributes : List Attribute
  /-- A field without a name is known by its position. -/
  name? : Option String
  type : TypeExpr
  deriving Repr

structure StructItem where
  attributes : List Attribute
  name : String
  /-- The names of all parameters. -/
  generics : List String
  fields : List Field
  deriving Repr

structure TraitImpl where
  negative : Bool
  interface : NamePath
  args : List TypeExpr
  self : TypeExpr
  deriving Repr

inductive Item
  | use (tree : UseTree)
  | struct (item : StructItem)
  /-- An enumeration, a union or a trait. -/
  | other (name : String)
  | synonym (name : String) (generic : Bool) (target : TypeExpr)
  /-- A module with its items, or one whose items stand in a file. -/
  | module (attributes : List Attribute) (name : String) (items : Option (List Item))
  | implementation (item : TraitImpl)
  /-- An item that names nothing. -/
  | silent
  deriving Repr, Inhabited

structure DeriveInput where
  isStruct : Bool
  isGeneric : Bool
  fields : List Field
  deriving Repr

end ViewCompanion.Source
