import ViewCompanion.Config.Basic
import ViewCompanion.Crate.Annotated
import ViewCompanion.Crate.Module

namespace ViewCompanion

open Source

/-- The names that every crate can refer to. -/
def runtimeNames : List QualifiedName := [
  "porbeagle::DiscordView", "porbeagle::MessageView", "porbeagle::ViewParts",
  "porbeagle::MessagePayload", "porbeagle::Snowflake", "porbeagle::Embed",
  "porbeagle::EmbedField", "porbeagle::Component", "porbeagle::ActionRow", "porbeagle::Button",
  "porbeagle::ButtonStyle", "porbeagle::SelectMenu", "porbeagle::SelectOption",
  "porbeagle::attributes::sticker", "porbeagle::attributes::action_row"]

def Config.references (c : Config) : NameSet :=
  .ofList (runtimeNames ++ c.extraReferences)

namespace Resolver

/-- The scopes of the modules; of two modules of one name the later counts. -/
def scopesOf (modules : List SourceModule) : List (String × Scope) :=
  modules.foldl (fun scopes m =>
    (m.path, Scope.ofItems m.items) :: scopes.filter fun s => s.1 != m.path) []

def localNames (scopes : List (String × Scope)) : List QualifiedName :=
  scopes.flatMap fun (home, scope) => scope.locals.map (QualifiedName.join home)

def ofModules (c : Config) (modules : List SourceModule) : Resolver :=
  let scopes := scopesOf modules
  ⟨c.crateName, scopes, c.references.union (localNames scopes)⟩

/-- How many names that stand for other types are replaced in a row. -/
def maxAliasDepth : Nat := 8

/-- A name that stands for a type without parameters is replaced by the type. -/
def expand (aliases : List (QualifiedName × ResolvedType)) : Nat → ResolvedType → ResolvedType
  | 0, t => t
  | depth + 1, t =>
    match t.args, aliases.lookup t.name with
    | [], some target => expand aliases depth target
    | args, _ => ⟨t.name, args.map (expand aliases depth)⟩

/-- The names that stand for types; the latest comes first. -/
def aliasesOf (r : Resolver) (modules : List SourceModule) :
    List (QualifiedName × ResolvedType) :=
  (modules.flatMap fun m => m.items.filterMap fun
    | .synonym name false target =>
      some (QualifiedName.join m.path name, r.resolveType m.path none target)
    | _ => none).reverse

def member (r : Resolver) (home : String) (helpers? : Option QualifiedName)
    (aliases : List (QualifiedName × ResolvedType)) (field : Field) (position : Nat) : Member where
  name := field.name?.getD (toString position)
  type := expand aliases maxAliasDepth (r.resolveType home none field.type)
  annotations := field.attributes.flatMap (r.annotationsOf home helpers?)

/-- Where the attributes on the members of a view are looked for. -/
def helpersOf (c : Config) (annotations : List Annotation) : Option QualifiedName :=
  if annotations.any fun a => a.is c.wellKnown.viewMarker then some c.helperNamespace else none

def declaration (r : Resolver) (c : Config) (aliases : List (QualifiedName × ResolvedType))
    (home : String) (item : StructItem) : Declaration :=
  let annotations := item.attributes.flatMap (r.annotationsOf home none)
  let helpers? := helpersOf c annotations
  { home
    name := item.name
    generics := item.generics
    annotations
    members := item.fields.mapIdx fun position field =>
      r.member home helpers? aliases field position
    interfaces := [] }

/-- Which type an implementation is for, and the interface. A negative one is for none. -/
def interface? (r : Resolver) (home : String) (item : TraitImpl) :
    Option (QualifiedName × ResolvedType) :=
  if item.negative then none
  else
    let self := r.resolveType home none item.self
    some (self.name,
      ⟨r.resolvePath home item.interface, r.resolveTypes home (some self) item.args⟩)

/-- Gives each declaration the interfaces that are implemented for its name. Of several declarations
of one name the last has them. -/
def attach (interfaces : List (QualifiedName × ResolvedType)) :
    List Declaration → List Declaration
  | [] => []
  | d :: rest =>
    let d := if rest.any fun e => e.qualifiedName == d.qualifiedName then d
      else { d with interfaces := (interfaces.filter fun i => i.1 == d.qualifiedName).map Prod.snd }
    d :: attach interfaces rest

def declarations (r : Resolver) (c : Config) (modules : List SourceModule) : List Declaration :=
  let aliases := r.aliasesOf modules
  let interfaces := modules.flatMap fun m => m.items.filterMap fun
    | .implementation item => r.interface? m.path item
    | _ => none
  attach interfaces (modules.flatMap fun m => m.items.filterMap fun
    | .struct item => some (r.declaration c aliases m.path item)
    | _ => none)

end Resolver

def Snapshot.ofModules (c : Config) (modules : List SourceModule) : Snapshot :=
  ⟨(Resolver.ofModules c modules).declarations c modules, c.references⟩

/-- The snapshot of a crate in one text. Modules whose items stand in a file are left out. -/
def Snapshot.ofText? (c : Config) (text : String) : Option Snapshot :=
  (itemsOfFile? text).map fun items =>
    .ofModules c (SourceModule.inText ⟨c.crateName, items⟩)

end ViewCompanion
