import ViewCompanion.Declaration.Basic
import ViewCompanion.Text.Alphanumeric

namespace ViewCompanion

namespace QualifiedName

/-- The segments at which a path starts that is no name of a crate. -/
def relativeRoots : List String :=
  ["crate", "self", "super"]

def isRelative (name : QualifiedName) : Bool :=
  relativeRoots.any fun root => (below? root name).isSome

def isPathChar (c : Char) : Bool :=
  Text.isAlphanumeric c || c == '_' || c == ':'

/-- A path into another crate starts at the very top. What is no such path stays as it is. -/
def absolute (name : QualifiedName) : String :=
  if !name.toList.all isPathChar || isRelative name || (Text.cutFirst? mark name.toList).isNone then
    name
  else "::" ++ name

/-- A path into the crate itself starts at `crate`, whatever the crate is called. -/
def fromCrate (crateName : String) (name : QualifiedName) : String :=
  match below? crateName name with
  | some rest => "crate" ++ String.ofList rest
  | none => absolute name

end QualifiedName

namespace ResolvedType

mutual

def source (crateName : String) : ResolvedType → String
  | ⟨name, []⟩ => QualifiedName.fromCrate crateName name
  | ⟨name, a :: as⟩ =>
    QualifiedName.fromCrate crateName name ++ "<" ++ source crateName a
      ++ sourceRest crateName as

def sourceRest (crateName : String) : List ResolvedType → String
  | [] => ">"
  | a :: as => ", " ++ source crateName a ++ sourceRest crateName as

end

end ResolvedType

end ViewCompanion
