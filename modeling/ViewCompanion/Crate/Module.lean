import ViewCompanion.Source.Grammar

namespace ViewCompanion

open Source

structure SourceModule where
  path : String
  items : List Item
  deriving Repr

namespace Source.Attribute

/-- Whether a condition can only hold in tests. Conditions deeper than `depth` do not count. -/
def requiresTest : Nat → Attribute → Bool
  | 0, _ => false
  | depth + 1, condition =>
    match condition.content with
    | .word => condition.path.isName "test"
    | .list tokens =>
      match metasOf? tokens with
      | some parts =>
        if condition.path.isName "all" then parts.any (requiresTest depth)
        else if condition.path.isName "any" then !parts.isEmpty && parts.all (requiresTest depth)
        else false
      | none => false
    | .value _ => false

def isTestOnly (a : Attribute) : Bool :=
  a.path.isName "cfg" && match a.content with
    | .list tokens =>
      match metaOf? tokens with
      | some condition => condition.requiresTest (Token.sizeOfAll tokens + 1)
      | none => false
    | _ => false

end Source.Attribute

/-- A module whose items are at hand, or one whose items stand in a file of their own. -/
inductive Part
  | module (m : SourceModule)
  /-- The module and its name, and the folders from the file that it is declared in to its own. -/
  | file (path : String) (folders : List String) (name : String)
  deriving Repr

namespace Part

def module? : Part → Option SourceModule
  | module m => some m
  | file _ _ _ => none

def child (home name : String) : String := home ++ "::" ++ name

mutual

/-- The modules that an item of `home` declares, outer ones first. Those for tests are left out. -/
def ofItem (home : String) (folders : List String) : Item → List Part
  | .module attributes name items? =>
    if attributes.any Attribute.isTestOnly then []
    else match items? with
      | some items =>
        module ⟨child home name, items⟩ :: ofItems (child home name) (folders ++ [name]) items
      | none => [file (child home name) folders name]
  | _ => []

def ofItems (home : String) (folders : List String) : List Item → List Part
  | [] => []
  | item :: rest => ofItem home folders item ++ ofItems home folders rest

end

end Part

namespace SourceModule

def parts (m : SourceModule) : List Part :=
  .module m :: Part.ofItems m.path [] m.items

/-- A module and the modules inside it whose items are at hand. -/
def inText (m : SourceModule) : List SourceModule :=
  m.parts.filterMap Part.module?

end SourceModule

end ViewCompanion
