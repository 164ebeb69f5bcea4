import Mathlib.Data.List.Forall2
import Mathlib.Data.List.Pairwise
import ViewCompanion.Proofs.Crate.Agreement
import ViewCompanion.Proofs.Crate.Modules
import ViewCompanion.Proofs.Crate.Scopes
import ViewCompanion.Proofs.Crate.UseTree
import ViewCompanion.Source.Equality

namespace ViewCompanion

open Source

/-- What is found in a list does not depend on the order if there is only one thing to find. -/
theorem findSome?_eq_of_perm {α β : Type} {f : α → Option β} {as bs : List α} (h : as.Perm bs)
    (hunique : ∀ a ∈ as, ∀ b ∈ as, ∀ x y, f a = some x → f b = some y → x = y) :
    as.findSome? f = bs.findSome? f := by
  cases hfound : bs.findSome? f with
  | none =>
    rw [List.findSome?_eq_none_iff] at hfound ⊢
    exact fun a ha => hfound a (h.subset ha)
  | some y =>
    obtain ⟨b, hb, hy⟩ := List.exists_of_findSome?_eq_some hfound
    have hsome : (as.findSome? f).isSome = true :=
      List.findSome?_isSome_iff.2 ⟨b, h.symm.subset hb, by rw [hy]; rfl⟩
    obtain ⟨x, hx⟩ := Option.isSome_iff_exists.1 hsome
    obtain ⟨a, ha, hax⟩ := List.exists_of_findSome?_eq_some hx
    rw [hx, hunique a ha b (h.symm.subset hb) x y hax hy]

namespace Source.Item

def leaves : Item → List UseLeaf
  | .use tree => tree.leaves
  | _ => []

/-- The name that an item has in its own module. -/
def localName? : Item → Option String
  | .struct item => some item.name
  | .other name => some name
  | .synonym name _ _ => some name
  | _ => none

end Source.Item

namespace Scope

theorem import?_foldl_addItem (items : List Item) (s : Scope) (name : String) :
    (items.foldl addItem s).import? name =
      (((items.flatMap Item.leaves).reverse.find? fun leaf => leaf.given? == some name).map
        UseLeaf.path).or (s.import? name) := by
  induction items generalizing s with
  | nil => rfl
  | cons item rest ih =>
    rw [List.foldl_cons, ih, List.flatMap_cons, List.reverse_append, List.find?_append,
      Option.map_or, Option.or_assoc]
    refine congrArg (Option.or _) ?_
    cases item with
    | use tree => rw [addItem, addTree_nil, import?_foldl_addLeaf]; rfl
    | _ => rfl

theorem globs_foldl_addItem (items : List Item) (s : Scope) :
    (items.foldl addItem s).globs =
      s.globs ++ ((items.flatMap Item.leaves).filter UseLeaf.isGlob).map UseLeaf.path := by
  induction items generalizing s with
  | nil => simp
  | cons item rest ih =>
    rw [List.foldl_cons, ih, List.flatMap_cons, List.filter_append, List.map_append,
      ← List.append_assoc]
    refine congrArg (· ++ _) ?_
    cases item with
    | use tree => rw [addItem, addTree_nil, globs_foldl_addLeaf]; rfl
    | _ => exact (List.append_nil _).symm

theorem locals_foldl_addItem (items : List Item) (s : Scope) :
    (items.foldl addItem s).locals = s.locals ++ items.filterMap Item.localName? := by
  induction items generalizing s with
  | nil => simp
  | cons item rest ih =>
    rw [List.foldl_cons, ih]
    cases item with
    | use tree => rw [addItem, addTree_nil, locals_foldl_addLeaf]; rfl
    | struct _ | other _ | synonym _ _ _ => simp [addItem, addLocal, Item.localName?]
    | _ => rfl

/-- Two scopes that differ in the order of their globs alone. -/
structure Reorders (s s' : Scope) : Prop where
  imports : ∀ name, s.import? name = s'.import? name
  globs : s.globs.Perm s'.globs
  locals : s.locals = s'.locals

end Scope

namespace SourceModule

def leaves (m : SourceModule) : List UseLeaf :=
  m.items.flatMap Item.leaves

/-- No two imports of the module give the same name. -/
def GivesNamesOnce (m : SourceModule) : Prop :=
  (m.leaves.filterMap UseLeaf.given?).Nodup

instance (m : SourceModule) : Decidable m.GivesNamesOnce :=
  inferInstanceAs (Decidable (List.Nodup _))

theorem import?_scope (m : SourceModule) (name : String) :
    m.scope.import? name =
      (m.leaves.reverse.find? fun leaf => leaf.given? == some name).map UseLeaf.path :=
  (Scope.import?_foldl_addItem m.items .empty name).trans (Option.or_none ..)

theorem globs_scope (m : SourceModule) :
    m.scope.globs = (m.leaves.filter UseLeaf.isGlob).map UseLeaf.path :=
  Scope.globs_foldl_addItem m.items .empty

theorem locals_scope (m : SourceModule) :
    m.scope.locals = m.items.filterMap Item.localName? :=
  Scope.locals_foldl_addItem m.items .empty

/-- Two modules that differ in the order of their imports alone, as far as it matters here. -/
structure ReordersImports (m m' : SourceModule) : Prop where
  path : m.path = m'.path
  leaves : m.leaves.Perm m'.leaves
  names : m.items.filterMap Item.localName? = m'.items.filterMap Item.localName?
  shown : m.keeping Item.isShown = m'.keeping Item.isShown

variable {m m' : SourceModule}

theorem GivesNamesOnce.eq_of_given? (h : m.GivesNamesOnce) {leaf other : UseLeaf}
    (hleaf : leaf ∈ m.leaves) (hother : other ∈ m.leaves) {name : String}
    (hname : leaf.given? = some name) (hsame : other.given? = some name) : leaf = other := by
  have hpairs : m.leaves.Pairwise fun a b => a.given? = some name → b.given? ≠ some name :=
    (List.pairwise_filterMap.1 h).imp fun hne ha hb => hne name ha name hb rfl
  have hsymm : Std.Symm fun a b : UseLeaf => a.given? = some name → b.given? ≠ some name :=
    ⟨fun a b hab hb ha => hab ha hb⟩
  by_contra hne
  exact hpairs.forall hleaf hother hne hname hsame

/-- Imports that give each name once may come in any order. -/
theorem ReordersImports.scope (h : m.ReordersImports m') (honce : m.GivesNamesOnce) :
    m.scope.Reorders m'.scope where
  imports name := by
    have hfind : m.leaves.reverse.find? (fun leaf => leaf.given? == some name) =
        m'.leaves.reverse.find? fun leaf => leaf.given? == some name := by
      rw [← List.findSome?_guard, ← List.findSome?_guard]
      apply findSome?_eq_of_perm
      · exact (List.reverse_perm _).trans (h.leaves.trans (List.reverse_perm _).symm)
      · intro leaf hleaf other hother x y hx hy
        simp only [Option.guard_eq_some_iff, beq_iff_eq] at hx hy
        obtain ⟨rfl, hname⟩ := hx
        obtain ⟨rfl, hsame⟩ := hy
        exact honce.eq_of_given? (List.mem_reverse.1 hleaf) (List.mem_reverse.1 hother) hname hsame
    rw [import?_scope, import?_scope, hfind]
  globs := by
    rw [globs_scope, globs_scope]
    exact (h.leaves.filter _).map _
  locals := by rw [locals_scope, locals_scope, h.names]

end SourceModule

theorem Part.modulesOf_append (home : String) (items more : List Item) :
    modulesOf home (items ++ more) = modulesOf home items ++ modulesOf home more := by
  induction items with
  | nil => rfl
  | cons item rest ih =>
    rw [List.cons_append, modulesOf_cons, modulesOf_cons, ih, List.append_assoc]

namespace Source

/-- The same items with imports moved to other places, and so inside of each module. -/
inductive ImportsMoved : (items moved : List Item) → Prop
  | nil : ImportsMoved [] []
  | keep (item : Item) {items moved : List Item} (hrest : ImportsMoved items moved) :
      ImportsMoved (item :: items) (item :: moved)
  | body (attributes : List Attribute) (name : String) {inner innerMoved items moved : List Item}
      (hinner : ImportsMoved inner innerMoved) (hrest : ImportsMoved items moved) :
      ImportsMoved (.module attributes name (some inner) :: items)
        (.module attributes name (some innerMoved) :: moved)
  | move (tree : UseTree) (before before' : List Item) {after after' : List Item}
      (hrest : ImportsMoved (before ++ after) (before' ++ after')) :
      ImportsMoved (before ++ .use tree :: after) (before' ++ .use tree :: after')

namespace ImportsMoved

variable {items moved : List Item}

theorem leaves_perm (h : ImportsMoved items moved) :
    (items.flatMap Item.leaves).Perm (moved.flatMap Item.leaves) := by
  induction h with
  | nil => exact .refl _
  | keep item hrest ih => exact ih.append_left _
  | body attributes name hinner hrest ihinner ih => exact ih
  | move tree before before' hrest ih =>
    rw [List.flatMap_append, List.flatMap_append] at ih
    rw [List.flatMap_append, List.flatMap_append, List.flatMap_cons, List.flatMap_cons]
    exact (List.perm_append_comm_assoc ..).trans
      ((ih.append_left _).trans (List.perm_append_comm_assoc ..))

theorem filterMap_eq {α : Type} {f : Item → Option α} (huse : ∀ tree, f (.use tree) = none)
    (hmodule : ∀ attributes name items?, f (.module attributes name items?) = none)
    (h : ImportsMoved items moved) : items.filterMap f = moved.filterMap f := by
  induction h with
  | nil => rfl
  | keep item hrest ih => rw [List.filterMap_cons, List.filterMap_cons, ih]
  | body attributes name hinner hrest ihinner ih =>
    rw [List.filterMap_cons_none (hmodule ..), List.filterMap_cons_none (hmodule ..), ih]
  | move tree before before' hrest ih =>
    rw [List.filterMap_append, List.filterMap_append] at ih
    rw [List.filterMap_append, List.filterMap_append, List.filterMap_cons_none (huse tree),
      List.filterMap_cons_none (huse tree), ih]

theorem reordersImports (h : ImportsMoved items moved) (home : String) :
    SourceModule.ReordersImports ⟨home, items⟩ ⟨home, moved⟩ where
  path := rfl
  leaves := h.leaves_perm
  names := h.filterMap_eq (fun _ => rfl) (fun _ _ _ => rfl)
  shown := by
    unfold SourceModule.keeping
    rw [← List.filterMap_eq_filter, h.filterMap_eq (fun _ => rfl) (fun _ _ _ => rfl),
      List.filterMap_eq_filter]

/-- All modules inside are the same but for the order of their imports. -/
theorem modulesOf (h : ImportsMoved items moved) (home : String) :
    List.Forall₂ SourceModule.ReordersImports (Part.modulesOf home items)
      (Part.modulesOf home moved) := by
  induction h generalizing home with
  | nil => exact .nil
  | keep item hrest ih =>
    rw [Part.modulesOf_cons, Part.modulesOf_cons]
    exact List.rel_append (List.forall₂_same.2 fun m _ => ⟨rfl, .refl _, rfl, rfl⟩) (ih home)
  | @body attributes name inner innerMoved items moved hinner hrest ihinner ih =>
    by_cases hfollowed : (Item.module attributes name (some inner)).isFollowed = true
    · have hmoved : (Item.module attributes name (some innerMoved)).isFollowed = true := hfollowed
      rw [Part.modulesOf_cons_body hfollowed, Part.modulesOf_cons_body hmoved]
      exact List.rel_append (.cons (hinner.reordersImports _) (ihinner _)) (ih home)
    · have hskipped (items? : Option (List Item)) :
          (Item.module attributes name items?).isFollowed = false := by
        simpa [Item.isFollowed] using hfollowed
      rw [Part.modulesOf_cons_of_not_followed (hskipped _),
        Part.modulesOf_cons_of_not_followed (hskipped _)]
      exact ih home
  | move tree before before' hrest ih =>
    -- an import is no module, so it can be taken out of both
    rw [Part.modulesOf_append, Part.modulesOf_append, Part.modulesOf_cons_of_not_followed rfl,
      Part.modulesOf_cons_of_not_followed rfl, ← Part.modulesOf_append, ← Part.modulesOf_append]
    exact ih home

end ImportsMoved

end Source

namespace Resolver

variable {r r' : Resolver}

/-- No path is found through two globs of a module under different names. -/
def GlobsAgree (r : Resolver) : Prop :=
  ∀ home scope, r.scope? home = some scope → ∀ glob ∈ scope.globs, ∀ other ∈ scope.globs,
    ∀ first rest name name', r.fromGlob? home first rest glob = some name →
      r.fromGlob? home first rest other = some name' → name = name'

/-- Two resolvers that differ in the order of the globs of each module alone. -/
structure Reorders (r r' : Resolver) : Prop where
  crateName : r.crateName = r'.crateName
  known : r.known = r'.known
  scopes : ∀ home, Option.Rel Scope.Reorders (r.scope? home) (r'.scope? home)

namespace Reorders

theorem isModule_eq (h : r.Reorders r') (name : String) : r.isModule name = r'.isModule name := by
  have hscopes := h.scopes name
  unfold isModule
  generalize r.scope? name = found at hscopes ⊢
  generalize r'.scope? name = found' at hscopes ⊢
  cases hscopes <;> rfl

theorem anchored?_eq (h : r.Reorders r') (home : String) (segments : List String) :
    r.anchored? home segments = r'.anchored? home segments := by
  unfold anchored?
  rw [h.crateName]
  simp only [h.isModule_eq]

theorem target_eq (h : r.Reorders r') (home : String) : r.target home = r'.target home := by
  funext segments
  unfold target
  rw [h.anchored?_eq]

theorem fromGlob?_eq (h : r.Reorders r') (home first : String) (rest : List String) :
    r.fromGlob? home first rest = r'.fromGlob? home first rest := by
  funext glob
  unfold fromGlob? knows
  rw [h.target_eq, h.known]
  simp only [h.isModule_eq]

/-- Every path means the same if at most one of the globs of a module has something for it. -/
theorem agrees (h : r.Reorders r') (hglobs : r.GlobsAgree) : r.Agrees r' where
  known := h.known
  names home segments := by
    have hscopes := h.scopes home
    unfold resolveNames
    rw [h.anchored?_eq]
    cases r'.anchored? home segments with
    | some name => rfl
    | none =>
      generalize hscope : r.scope? home = found at hscopes ⊢
      generalize r'.scope? home = found' at hscopes ⊢
      cases hscopes with
      | none => rfl
      | @some scope scope' hscopes =>
        cases segments with
        | nil => rfl
        | cons first rest =>
          -- imports and the module's own names come before its globs, and are the same
          have hfound : scope.globs.findSome? (r.fromGlob? home first rest) =
              scope'.globs.findSome? (r'.fromGlob? home first rest) := by
            rw [← h.fromGlob?_eq]
            exact findSome?_eq_of_perm hscopes.globs fun glob hglob other hother =>
              hglobs home scope hscope glob hglob other hother first rest
          dsimp only
          rw [hscopes.imports, hscopes.locals, hfound, h.target_eq]

end Reorders

/-- One and the same name, and scopes that differ in the order of their globs alone. -/
def EntryReorders (entry entry' : String × Scope) : Prop :=
  entry.1 = entry'.1 ∧ entry.2.Reorders entry'.2

theorem scopesOf_reorders {modules modules' : List SourceModule}
    (h : List.Forall₂ SourceModule.ReordersImports modules modules')
    (honce : ∀ m ∈ modules, m.GivesNamesOnce) :
    List.Forall₂ EntryReorders (scopesOf modules) (scopesOf modules') := by
  have hentries : List.Forall₂ (fun m m' => EntryReorders (m.path, m.scope) (m'.path, m'.scope))
      modules modules' := by
    induction h with
    | nil => exact .nil
    | cons hm hrest ih =>
      obtain ⟨hfirst, hothers⟩ := List.forall_mem_cons.1 honce
      exact .cons ⟨hm.path, hm.scope hfirst⟩ (ih hothers)
  -- a module takes the place of an earlier one with its path, and so does its counterpart
  rw [scopesOf_eq_foldl, scopesOf_eq_foldl]
  refine List.rel_foldl ?_ .nil hentries
  intro scopes scopes' hscopes m m' hm
  refine .cons hm (List.rel_filter ?_ hscopes)
  intro entry entry' hentry
  have hpath : m.path = m'.path := hm.1
  dsimp only
  rw [hentry.1, hpath]

section Entries

variable {scopes scopes' : List (String × Scope)} (h : List.Forall₂ EntryReorders scopes scopes')

include h

theorem lookup_reorders (home : String) :
    Option.Rel Scope.Reorders (scopes.lookup home) (scopes'.lookup home) := by
  induction h with
  | nil => exact .none
  | @cons entry entry' scopes scopes' hentry hrest ih =>
    obtain ⟨path, scope⟩ := entry
    obtain ⟨path', scope'⟩ := entry'
    obtain ⟨rfl, hscope⟩ := hentry
    rw [List.lookup_cons, List.lookup_cons]
    cases home == path with
    | true => exact .some hscope
    | false => exact ih

theorem localNames_reorders : localNames scopes = localNames scopes' := by
  induction h with
  | nil => rfl
  | @cons entry entry' scopes scopes' hentry hrest ih =>
    have hentryNames : entry.2.locals.map (QualifiedName.join entry.1) =
        entry'.2.locals.map (QualifiedName.join entry'.1) := by
      rw [hentry.1, hentry.2.locals]
    show entry.2.locals.map (QualifiedName.join entry.1) ++ localNames scopes =
      entry'.2.locals.map (QualifiedName.join entry'.1) ++ localNames scopes'
    rw [hentryNames, ih]

end Entries

theorem ofModules_reorders (c : Config) {modules modules' : List SourceModule}
    (h : List.Forall₂ SourceModule.ReordersImports modules modules')
    (honce : ∀ m ∈ modules, m.GivesNamesOnce) :
    (ofModules c modules).Reorders (ofModules c modules') where
  crateName := rfl
  known := congrArg c.references.union (localNames_reorders (scopesOf_reorders h honce))
  scopes := lookup_reorders (scopesOf_reorders h honce)

end Resolver

namespace Snapshot

theorem ofModules_reorders (c : Config) {modules modules' : List SourceModule}
    (h : List.Forall₂ SourceModule.ReordersImports modules modules')
    (honce : ∀ m ∈ modules, m.GivesNamesOnce)
    (hglobs : (Resolver.ofModules c modules).GlobsAgree) :
    ofModules c modules = ofModules c modules' := by
  have hagrees := (Resolver.ofModules_reorders c h honce).agrees hglobs
  have hshown : modules.map (SourceModule.keeping Item.isShown) =
      modules'.map (SourceModule.keeping Item.isShown) := by
    have heq := List.rel_map (fun _ _ hm => hm.shown) h
    rwa [List.forall₂_eq_eq_eq] at heq
  unfold ofModules
  rw [hagrees.declarations_eq, ← Resolver.declarations_keeping (fun _ h => h), hshown,
    Resolver.declarations_keeping (fun _ h => h)]

/-- Where no name is given by two imports of a module, and no path is found through two of its globs
under different names, the imports of every module may come in any order. -/
theorem ofText?_of_importsMoved (c : Config) {text moved : String} {items movedItems : List Item}
    (htext : itemsOfFile? text = some items) (hmoved : itemsOfFile? moved = some movedItems)
    (h : ImportsMoved items movedItems)
    (honce : ∀ m ∈ SourceModule.inText ⟨c.crateName, items⟩, m.GivesNamesOnce)
    (hglobs : (Resolver.ofModules c (SourceModule.inText ⟨c.crateName, items⟩)).GlobsAgree) :
    ofText? c text = ofText? c moved := by
  have hmodules : List.Forall₂ SourceModule.ReordersImports
      (SourceModule.inText ⟨c.crateName, items⟩) (SourceModule.inText ⟨c.crateName, movedItems⟩) :=
    .cons (h.reordersImports c.crateName) (h.modulesOf c.crateName)
  unfold ofText?
  rw [htext, hmoved]
  exact congrArg some (ofModules_reorders c hmodules honce hglobs)

end Snapshot

namespace Resolver

variable {r : Resolver}

/-- The names that a path can be found under through a glob. -/
def namesOf (c : Config) (modules : List SourceModule) : List QualifiedName :=
  runtimeNames ++ c.extraReferences ++ localNames (scopesOf modules) ++
    (scopesOf modules).map Prod.fst

theorem mem_scopesOf {c : Config} {modules : List SourceModule} {home : String} {scope : Scope}
    (h : (ofModules c modules).scope? home = some scope) : (home, scope) ∈ scopesOf modules := by
  obtain ⟨before, after, hsplit, -⟩ := List.lookup_eq_some_iff.1 h
  have hscopes : scopesOf modules = before ++ (home, scope) :: after := hsplit
  rw [hscopes]
  exact List.mem_append_right _ List.mem_cons_self

theorem mem_namesOf_of_fromGlob? {c : Config} {modules : List SourceModule} {home first : String}
    {rest glob : List String} {name : QualifiedName}
    (h : (ofModules c modules).fromGlob? home first rest glob = some name) :
    name = inside ((ofModules c modules).target home glob ++ "::" ++ first) rest ∧
      name ∈ namesOf c modules := by
  unfold fromGlob? at h
  dsimp only at h
  split at h
  · rename_i hfound
    cases h
    refine ⟨rfl, ?_⟩
    rcases Bool.or_eq_true_iff.1 hfound with hknown | hmodule
    · refine List.mem_append_left _ (List.mem_append.2 ?_)
      exact (NameSet.mem_union.1 (NameSet.contains_iff.1 hknown)).imp_left NameSet.mem_ofList.1
    · obtain ⟨scope, hscope⟩ := Option.isSome_iff_exists.1 hmodule
      exact List.mem_append_right _ (List.mem_map_of_mem (mem_scopesOf hscope))
  · cases h

def behind (base : QualifiedName) (names : List QualifiedName) : List (List Char) :=
  names.filterMap fun name => Text.dropFront? base.toList name.toList

/-- Globs agree if nothing that has a name behind one of them has a name behind another one too. -/
theorem globsAgree_of_behind {c : Config} {modules : List SourceModule}
    (h : ∀ entry ∈ scopesOf modules, ∀ glob ∈ entry.2.globs, ∀ other ∈ entry.2.globs,
      glob ≠ other →
        ∀ rest ∈ behind ((ofModules c modules).target entry.1 glob) (namesOf c modules),
          rest ∉ behind ((ofModules c modules).target entry.1 other) (namesOf c modules)) :
    (ofModules c modules).GlobsAgree := by
  intro home scope hscope glob hglob other hother first rest name name' hname hname'
  obtain ⟨rfl, hmem⟩ := mem_namesOf_of_fromGlob? hname
  obtain ⟨rfl, hmem'⟩ := mem_namesOf_of_fromGlob? hname'
  -- what is found through either glob ends with the path that is looked for
  have hbehind (base : QualifiedName)
      (hbase : inside (base ++ "::" ++ first) rest ∈ namesOf c modules) :
      QualifiedName.mark ++ first.toList ++ rest.flatMap (fun s => QualifiedName.mark ++ s.toList) ∈
        behind base (namesOf c modules) := by
    refine List.mem_filterMap.2 ⟨_, hbase, Text.dropFront?_eq_some_iff.2 ?_⟩
    rw [toList_inside (by simp), String.toList_append, String.toList_append]
    simp [QualifiedName.mark]
  by_cases hsame : glob = other
  · rw [hsame]
  · exact absurd (hbehind _ hmem')
      (h _ (mem_scopesOf hscope) glob hglob other hother hsame _ (hbehind _ hmem))

end Resolver

namespace Snapshot

/-- A crate with two globs in one module and one in another. -/
def globbing : String :=
  "use porbeagle::*;use m::*;struct C(Embed,I);mod m\x7buse super::*;struct I(C,S);use a::S;\x7d"

def globbingMoved : String :=
  "use m::*;struct C(Embed,I);mod m\x7buse a::S;use super::*;struct I(C,S);\x7duse porbeagle::*;"

def everything (path : String) : Item := .use (.path path .glob)

def tuple (name : String) (types : List String) : Item :=
  .struct ⟨[], name, [], types.map fun type => ⟨[], none, .path ⟨false, [type]⟩ true []⟩⟩

def innerItems : List Item :=
  [everything "super", tuple "I" ["C", "S"], .use (.path "a" (.name "S"))]

def innerItemsMoved : List Item :=
  [.use (.path "a" (.name "S")), everything "super", tuple "I" ["C", "S"]]

def globbingItems : List Item :=
  [everything "porbeagle", everything "m", tuple "C" ["Embed", "I"],
    .module [] "m" (some innerItems)]

def globbingItemsMoved : List Item :=
  [everything "m", tuple "C" ["Embed", "I"], .module [] "m" (some innerItemsMoved),
    everything "porbeagle"]

theorem importsMoved_globbing : ImportsMoved globbingItems globbingItemsMoved := by
  have hinner : ImportsMoved innerItems innerItemsMoved :=
    .move (.path "a" (.name "S")) [everything "super", tuple "I" ["C", "S"]] []
      (.keep _ (.keep _ .nil))
  exact .move (.path "porbeagle" .glob) []
    [everything "m", tuple "C" ["Embed", "I"], .module [] "m" (some innerItemsMoved)]
    (.keep _ (.keep _ (.body _ _ hinner .nil)))

theorem ofText?_of_importsMoved_globbing :
    ∃ s, ofText? .standard globbing = some s ∧ ofText? .standard globbingMoved = some s := by
  have htext : itemsOfFile? globbing = some globbingItems := by decide +kernel
  have hmoved : itemsOfFile? globbingMoved = some globbingItemsMoved := by decide +kernel
  have hsame := ofText?_of_importsMoved .standard htext hmoved importsMoved_globbing
    (by decide +kernel) (Resolver.globsAgree_of_behind (by decide +kernel))
  obtain ⟨s, hs⟩ : ∃ s, ofText? .standard globbing = some s :=
    ⟨_, congrArg (Option.map _) htext⟩
  exact ⟨s, hs, hsame ▸ hs⟩

end Snapshot

end ViewCompanion
