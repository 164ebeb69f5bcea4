import ViewCompanion.Name
import ViewCompanion.Text.Quoted

namespace ViewCompanion

/-- A type after resolution: its definition and the arguments in order. A type that is no path has
its text as name and no arguments. -/
structure ResolvedType where
  name : QualifiedName
  args : List ResolvedType
  deriving Repr, Inhabited

namespace ResolvedType

mutual

def decEq : (a b : ResolvedType) → Decidable (a = b)
  | ⟨n, as⟩, ⟨m, bs⟩ =>
    if h : n = m then
      match decEqList as bs with
      | isTrue h' => isTrue (by rw [h, h'])
      | isFalse h' => isFalse (by rintro ⟨⟩; exact h' rfl)
    else isFalse (by rintro ⟨⟩; exact h rfl)

def decEqList : (as bs : List ResolvedType) → Decidable (as = bs)
  | [], [] => isTrue rfl
  | [], _ :: _ => isFalse (by simp)
  | _ :: _, [] => isFalse (by simp)
  | a :: as, b :: bs =>
    match decEq a b, decEqList as bs with
    | isTrue h, isTrue h' => isTrue (by rw [h, h'])
    | isFalse h, _ => isFalse (by rintro ⟨⟩; exact h rfl)
    | _, isFalse h => isFalse (by rintro ⟨⟩; exact h rfl)

end

instance : DecidableEq ResolvedType := decEq

def plain (name : QualifiedName) : ResolvedType := ⟨name, []⟩

mutual

def text : ResolvedType → List Char
  | ⟨name, []⟩ => name.toList
  | ⟨name, a :: as⟩ => name.toList ++ '<' :: text a ++ textRest as

def textRest : List ResolvedType → List Char
  | [] => ['>']
  | a :: as => ',' :: ' ' :: text a ++ textRest as

end

/-- The name, with the arguments between angle brackets. -/
def display (t : ResolvedType) : String :=
  String.ofList t.text

end ResolvedType

inductive Argument
  | int (n : Int64)
  | str (s : String)
  | bool (b : Bool)
  | type (t : ResolvedType)
  | other (text : String)
  deriving DecidableEq, Repr

def Argument.display : Argument → String
  | int n => toString n.toInt
  | str s => Text.quoted s
  | bool true => "true"
  | bool false => "false"
  | type t => t.display
  | other text => text

/-- An attribute of a declaration or member; without a class when that is unknown. -/
structure Annotation where
  class? : Option QualifiedName
  args : List Argument
  deriving DecidableEq, Repr

namespace Annotation

def marker (name : QualifiedName) : Annotation := ⟨some name, []⟩

def is (a : Annotation) (name : QualifiedName) : Bool :=
  a.class? == some name

end Annotation

structure Member where
  name : String
  type : ResolvedType
  annotations : List Annotation
  deriving DecidableEq, Repr

def Member.annotationsOf (m : Member) (name : QualifiedName) : List Annotation :=
  m.annotations.filter fun a => a.is name

structure Declaration where
  home : String
  name : String
  generics : List String
  annotations : List Annotation
  members : List Member
  interfaces : List ResolvedType
  deriving DecidableEq, Repr

namespace Declaration

def qualifiedName (d : Declaration) : QualifiedName :=
  QualifiedName.join d.home d.name

def isAnnotated (d : Declaration) (name : QualifiedName) : Bool :=
  d.annotations.any fun a => a.is name

end Declaration

/-- What one run knows of a crate: its struct declarations, each with its members, annotations and
interfaces, and the names that other crates define. -/
structure Snapshot where
  declarations : List Declaration
  /-- The names that other crates define. -/
  references : NameSet
  deriving DecidableEq, Repr

def Snapshot.defines (s : Snapshot) (name : QualifiedName) : Bool :=
  s.references.contains name || s.declarations.any fun d => d.qualifiedName == name

end ViewCompanion
