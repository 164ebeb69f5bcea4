import ViewCompanion.Crate.Resolver
import ViewCompanion.Source.Grammar

namespace ViewCompanion

open Source

namespace Resolver

def literalArgument : Literal → Argument
  | .int negative value _ text =>
    let n : Int := if negative then -(value : Int) else value
    if -(Text.int64Bound : Int) ≤ n ∧ n < Text.int64Bound then .int (Int64.ofInt n) else .other text
  | .str value => .str value
  | .bool value => .bool value
  | .other text => .other text

def argument (r : Resolver) (home : String) : ValueExpr → Argument
  | .literal l => literalArgument l
  | .negated value text =>
    if value < Text.int64Bound then .int (Int64.ofInt (-(value : Int))) else .other text
  | .path p => .type (.plain (r.resolvePath home p))
  | .other text => .other text

/-- The arguments of an attribute. A list that is not made of values is one argument. -/
def arguments (r : Resolver) (home : String) : Meta → List Argument
  | .word => []
  | .list tokens =>
    match valuesOf? tokens with
    | some values => values.map (r.argument home)
    | none => [.other (Token.display tokens)]
  | .value v => [r.argument home v]

/-- The class of an attribute: a known name of `helpers?` if there is one for it. -/
def annotationClass (r : Resolver) (home : String) (helpers? : Option QualifiedName)
    (p : NamePath) : QualifiedName :=
  match helpers?, p.name? with
  | some helpers, some name =>
    let helper := QualifiedName.join helpers name
    if r.knows helper then helper else r.resolvePath home p
  | _, _ => r.resolvePath home p

/-- Every derive is an annotation of its own; documentation is none. -/
def annotationsOf (r : Resolver) (home : String) (helpers? : Option QualifiedName)
    (a : Attribute) : List Annotation :=
  if a.path.isName "derive" then
    match a.content with
    | .list tokens => ((pathsOf? tokens).getD []).map fun p => .marker (r.resolvePath home p)
    | _ => []
  else if a.path.isName "doc" then []
  else [⟨some (r.annotationClass home helpers? a.path), r.arguments home a.content⟩]

end Resolver

end ViewCompanion
