import ViewCompanion.Crate.Snapshot

namespace ViewCompanion.Resolver

open Source

/-- Every path means the same to both, and both know the same names. -/
structure Agrees (r r' : Resolver) : Prop where
  names : ∀ home segments, r.resolveNames home segments = r'.resolveNames home segments
  known : r.known = r'.known

namespace Agrees

variable {r r' : Resolver}

theorem resolvePath_eq (h : r.Agrees r') (home : String) (p : NamePath) :
    r.resolvePath home p = r'.resolvePath home p := by
  unfold resolvePath
  rw [h.names]

theorem knows_eq (h : r.Agrees r') (name : QualifiedName) : r.knows name = r'.knows name := by
  unfold knows
  rw [h.known]

mutual

theorem resolveType_eq (h : r.Agrees r') (home : String) (self? : Option ResolvedType) :
    ∀ t : TypeExpr, r.resolveType home self? t = r'.resolveType home self? t
  | .path p bare args => by
    unfold resolveType
    rw [h.resolvePath_eq, resolveTypes_eq h home self? args]
  | .paren inner => by rw [resolveType, resolveType, resolveType_eq h home self? inner]
  | .other text => by rw [resolveType, resolveType]

theorem resolveTypes_eq (h : r.Agrees r') (home : String) (self? : Option ResolvedType) :
    ∀ ts : List TypeExpr, r.resolveTypes home self? ts = r'.resolveTypes home self? ts
  | [] => by rw [resolveTypes, resolveTypes]
  | t :: ts => by
    rw [resolveTypes, resolveTypes, resolveType_eq h home self? t,
      resolveTypes_eq h home self? ts]

end

section Attributes

variable (h : r.Agrees r') (home : String)

include h

theorem argument_eq (v : ValueExpr) : r.argument home v = r'.argument home v := by
  cases v with
  | path p => exact congrArg (Argument.type ∘ .plain) (h.resolvePath_eq home p)
  | _ => rfl

theorem arguments_eq (content : Meta) : r.arguments home content = r'.arguments home content := by
  have hargument : r.argument home = r'.argument home := funext (h.argument_eq home)
  unfold arguments
  rw [hargument]

theorem annotationClass_eq (helpers? : Option QualifiedName) (p : NamePath) :
    r.annotationClass home helpers? p = r'.annotationClass home helpers? p := by
  unfold annotationClass
  simp only [h.resolvePath_eq, h.knows_eq]

theorem annotationsOf_eq (helpers? : Option QualifiedName) :
    r.annotationsOf home helpers? = r'.annotationsOf home helpers? := by
  funext a
  unfold annotationsOf
  simp only [h.resolvePath_eq, h.annotationClass_eq, h.arguments_eq]

end Attributes

section Declarations

variable (h : r.Agrees r') (c : Config)

include h

theorem declaration_eq (aliases : List (QualifiedName × ResolvedType)) (home : String) :
    r.declaration c aliases home = r'.declaration c aliases home := by
  funext item
  unfold declaration member
  simp only [h.annotationsOf_eq, h.resolveType_eq]

theorem interface?_eq (home : String) : r.interface? home = r'.interface? home := by
  funext item
  unfold interface?
  simp only [h.resolvePath_eq, h.resolveType_eq, h.resolveTypes_eq]

theorem aliasesOf_eq (modules : List SourceModule) :
    r.aliasesOf modules = r'.aliasesOf modules := by
  unfold aliasesOf
  simp only [h.resolveType_eq]

/-- The declarations depend on nothing else. -/
theorem declarations_eq (modules : List SourceModule) :
    r.declarations c modules = r'.declarations c modules := by
  unfold declarations
  simp only [h.aliasesOf_eq, h.declaration_eq, h.interface?_eq]

end Declarations

end Agrees

end ViewCompanion.Resolver
