import ViewCompanion.Crate.Scope
import ViewCompanion.Declaration.Basic

namespace ViewCompanion

open Source

/-- What the paths of a crate's sources stand for. A path that has no place in the crate is kept as
written. -/
structure Resolver where
  crateName : String
  /-- The scopes of all modules; the latest of a name comes first. -/
  scopes : List (String × Scope)
  known : NameSet

namespace Resolver

def scope? (r : Resolver) (home : String) : Option Scope :=
  r.scopes.lookup home

def isModule (r : Resolver) (name : String) : Bool :=
  (r.scope? name).isSome

/-- Whether another crate or a module of this one defines the name. -/
def knows (r : Resolver) (name : QualifiedName) : Bool :=
  r.known.contains name

def inside (base : QualifiedName) (segments : List String) : QualifiedName :=
  segments.foldl QualifiedName.join base

/-- The module around another; nothing is around the outermost. -/
def around (home : String) : String :=
  (QualifiedName.parent? home).getD home

def climb (home : String) : List String → QualifiedName
  | "super" :: rest => climb (around home) rest
  | rest => inside home rest

/-- What a path stands for that begins with `crate`, `self`, `super` or a module inside `home`;
imports have no part in it. -/
def anchored? (r : Resolver) (home : String) : List String → Option QualifiedName
  | [] => none
  | "crate" :: rest => some (inside r.crateName rest)
  | "self" :: rest => some (inside home rest)
  | "super" :: rest => some (climb (around home) rest)
  | first :: rest =>
    let child := home ++ "::" ++ first
    if r.isModule child then some (inside child rest) else none

def target (r : Resolver) (home : String) (segments : List String) : QualifiedName :=
  (r.anchored? home segments).getD (.ofSegments segments)

def fromGlob? (r : Resolver) (home first : String) (rest glob : List String) :
    Option QualifiedName :=
  let name := inside (r.target home glob ++ "::" ++ first) rest
  if r.knows name || r.isModule name then some name else none

/-- What a path means inside `home`: an anchored path comes first, then imports, items of the module
itself, and what is imported with everything around it. -/
def resolveNames (r : Resolver) (home : String) (segments : List String) : QualifiedName :=
  match r.anchored? home segments, r.scope? home, segments with
  | some name, _, _ => name
  | none, some scope, first :: rest =>
    match scope.import? first with
    | some segments => inside (r.target home segments) rest
    | none =>
      if scope.locals.contains first then inside (home ++ "::" ++ first) rest
      else (scope.globs.findSome? (r.fromGlob? home first rest)).getD (.ofSegments segments)
  | none, _, _ => .ofSegments segments

def resolvePath (r : Resolver) (home : String) (p : NamePath) : QualifiedName :=
  if p.absolute then .ofSegments p.names else r.resolveNames home p.names

mutual

/-- The type that an expression means inside `home`; `Self` means `self?` if there is one. -/
def resolveType (r : Resolver) (home : String) (self? : Option ResolvedType) :
    TypeExpr → ResolvedType
  | .path p bare args =>
    match self?, bare && p.isName "Self" with
    | some self, true => self
    | _, _ => ⟨r.resolvePath home p, resolveTypes r home self? args⟩
  | .paren inner => resolveType r home self? inner
  | .other text => .plain text

def resolveTypes (r : Resolver) (home : String) (self? : Option ResolvedType) :
    List TypeExpr → List ResolvedType
  | [] => []
  | t :: ts => resolveType r home self? t :: resolveTypes r home self? ts

end

end Resolver

end ViewCompanion
