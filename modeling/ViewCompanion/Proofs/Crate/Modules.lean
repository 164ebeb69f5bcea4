import ViewCompanion.Proofs.Crate.Snapshot

namespace ViewCompanion

open Source

def Source.Item.isFollowed : Item → Bool
  | .module attributes _ _ => !attributes.any Attribute.isTestOnly
  | _ => false

def Source.Item.isModule : Item → Bool
  | .module _ _ _ => true
  | _ => false

namespace Part

variable {home name : String} {folders : List String} {attributes : List Attribute}

theorem ofItem_of_not_followed {item : Item} (h : item.isFollowed = false) :
    ofItem home folders item = [] := by
  cases item with
  | module attributes name items? =>
    have htest : attributes.any Attribute.isTestOnly = true := by simpa [Item.isFollowed] using h
    cases items? <;> simp only [ofItem, htest, if_true]
  | _ => simp only [ofItem]

theorem ofItem_body {items : List Item}
    (h : (Item.module attributes name (some items)).isFollowed = true) :
    ofItem home folders (.module attributes name (some items)) =
      module ⟨child home name, items⟩ :: ofItems (child home name) (folders ++ [name]) items := by
  have htest : attributes.any Attribute.isTestOnly = false := by simpa [Item.isFollowed] using h
  simp only [ofItem, htest, Bool.false_eq_true, if_false]

theorem ofItem_file (h : (Item.module attributes name none).isFollowed = true) :
    ofItem home folders (.module attributes name none) = [file (child home name) folders name] := by
  have htest : attributes.any Attribute.isTestOnly = false := by simpa [Item.isFollowed] using h
  simp only [ofItem, htest, Bool.false_eq_true, if_false]

/-- The modules at hand among the items of `home`. -/
def modulesOf (home : String) (items : List Item) : List SourceModule :=
  (ofItems home [] items).filterMap module?

mutual

/-- In which folder files are looked for does not matter for the modules at hand. -/
theorem modules_ofItem (home : String) (folders others : List String) : ∀ item : Item,
    (ofItem home folders item).filterMap module? = (ofItem home others item).filterMap module?
  | .module attributes name none => by
    by_cases h : (Item.module attributes name none).isFollowed = true
    · rw [ofItem_file h, ofItem_file h]
      rfl
    · rw [Bool.not_eq_true] at h
      rw [ofItem_of_not_followed h, ofItem_of_not_followed h]
  | .module attributes name (some items) => by
    by_cases h : (Item.module attributes name (some items)).isFollowed = true
    · rw [ofItem_body h, ofItem_body h]
      exact congrArg (⟨child home name, items⟩ :: ·)
        (modules_ofItems (child home name) (folders ++ [name]) (others ++ [name]) items)
    · rw [Bool.not_eq_true] at h
      rw [ofItem_of_not_followed h, ofItem_of_not_followed h]
  | .use _ | .struct _ | .other _ | .synonym .. | .implementation _ | .silent => by
    simp only [ofItem]

theorem modules_ofItems (home : String) (folders others : List String) : ∀ items : List Item,
    (ofItems home folders items).filterMap module? = (ofItems home others items).filterMap module?
  | [] => rfl
  | item :: rest => by
    rw [ofItems, ofItems, List.filterMap_append, List.filterMap_append,
      modules_ofItem home folders others item, modules_ofItems home folders others rest]

end

theorem prefix_child (home name : String) : home.toList <+: (child home name).toList := by
  unfold child
  rw [String.toList_append, String.toList_append, List.append_assoc]
  exact List.prefix_append _ _

/-- `m` is declared with its items among `items`, those of `home`, or inside one that is. -/
inductive Declares : String → List Item → SourceModule → Prop
  | body {home name : String} {attributes : List Attribute} {items inner : List Item}
      (h : .module attributes name (some inner) ∈ items) :
      Declares home items ⟨child home name, inner⟩
  | inside {home name : String} {attributes : List Attribute} {items inner : List Item}
      {m : SourceModule} (h : .module attributes name (some inner) ∈ items)
      (hinner : Declares (child home name) inner m) : Declares home items m

theorem Declares.mono {items others : List Item} {m : SourceModule} (h : Declares home items m)
    (hsub : ∀ item ∈ items, item ∈ others) : Declares home others m := by
  cases h with
  | body h => exact .body (hsub _ h)
  | inside h hinner => exact .inside (hsub _ h) hinner

mutual

theorem declares_of_mem_ofItem (home : String) (folders : List String) : ∀ (item : Item)
    (m : SourceModule), module m ∈ ofItem home folders item → Declares home [item] m
  | .module attributes name none, m => by
    intro h
    by_cases hfollowed : (Item.module attributes name none).isFollowed = true
    · rw [ofItem_file hfollowed] at h
      cases List.mem_singleton.1 h
    · rw [Bool.not_eq_true] at hfollowed
      rw [ofItem_of_not_followed hfollowed] at h
      cases h
  | .module attributes name (some items), m => by
    intro h
    by_cases hfollowed : (Item.module attributes name (some items)).isFollowed = true
    · rw [ofItem_body hfollowed] at h
      rcases List.mem_cons.1 h with h | h
      · cases h
        exact .body List.mem_cons_self
      · exact .inside List.mem_cons_self (declares_of_mem_ofItems _ _ items m h)
    · rw [Bool.not_eq_true] at hfollowed
      rw [ofItem_of_not_followed hfollowed] at h
      cases h
  | .use _, _ | .struct _, _ | .other _, _ | .synonym .., _ | .implementation _, _ | .silent, _ => by
    intro h
    simp only [ofItem] at h
    cases h

theorem declares_of_mem_ofItems (home : String) (folders : List String) : ∀ (items : List Item)
    (m : SourceModule), module m ∈ ofItems home folders items → Declares home items m
  | [], _, h => nomatch h
  | item :: rest, m, h => by
    rw [ofItems] at h
    rcases List.mem_append.1 h with h | h
    · exact (declares_of_mem_ofItem home folders item m h).mono (by simp)
    · exact (declares_of_mem_ofItems home folders rest m h).mono fun _ =>
        List.mem_cons_of_mem item

end

theorem prefix_of_declares {items : List Item} {m : SourceModule} (h : Declares home items m) :
    home.toList <+: m.path.toList := by
  induction h with
  | body _ => exact prefix_child _ _
  | inside _ _ ih => exact (prefix_child _ _).trans ih

/-- What passes from a module to its items holds of the items of all modules. -/
theorem Declares.items {P : Item → Prop} (hinside : ∀ attributes name items,
      P (.module attributes name (some items)) → ∀ item ∈ items, P item)
    {items : List Item} {m : SourceModule} (h : Declares home items m) :
    (∀ item ∈ items, P item) → ∀ item ∈ m.items, P item := by
  induction h with
  | body h => exact fun hitems => hinside _ _ _ (hitems _ h)
  | inside h _ ih => exact fun hitems => ih (hinside _ _ _ (hitems _ h))

variable {rest : List Item}

theorem modulesOf_cons (home : String) (item : Item) (rest : List Item) :
    modulesOf home (item :: rest) =
      (ofItem home [] item).filterMap module? ++ modulesOf home rest := by
  unfold modulesOf
  rw [ofItems, List.filterMap_append]

theorem modulesOf_cons_of_not_followed {item : Item} (h : item.isFollowed = false) :
    modulesOf home (item :: rest) = modulesOf home rest := by
  rw [modulesOf_cons, ofItem_of_not_followed h]
  rfl

theorem modulesOf_cons_body {items : List Item}
    (h : (Item.module attributes name (some items)).isFollowed = true) :
    modulesOf home (.module attributes name (some items) :: rest) =
      ⟨child home name, items⟩ :: modulesOf (child home name) items ++ modulesOf home rest := by
  rw [modulesOf_cons, ofItem_body h]
  exact congrArg (⟨child home name, items⟩ :: · ++ modulesOf home rest)
    (modules_ofItems (child home name) ([] ++ [name]) [] items)

theorem modulesOf_cons_file (h : (Item.module attributes name none).isFollowed = true) :
    modulesOf home (.module attributes name none :: rest) = modulesOf home rest := by
  rw [modulesOf_cons, ofItem_file h]
  rfl

end Part

def Declaration.place (d : Declaration) : String × String :=
  (d.home, d.name)

namespace SourceModule

theorem declares_of_mem_inText {m n : SourceModule} (h : n ∈ m.inText) :
    n = m ∨ Part.Declares m.path m.items n := by
  obtain ⟨part, hpart, hmodule⟩ := List.mem_filterMap.1 h
  cases part with
  | file path folders name => cases hmodule
  | module inner =>
    cases hmodule
    rcases List.mem_cons.1 hpart with hself | hinner
    · exact .inl (Part.module.inj hself)
    · exact .inr (Part.declares_of_mem_ofItems m.path [] m.items n hinner)

/-- All modules of a crate lie inside the outermost one. -/
theorem path_prefix_of_mem_inText {m n : SourceModule} (h : n ∈ m.inText) :
    m.path.toList <+: n.path.toList := by
  rcases declares_of_mem_inText h with rfl | hdeclares
  · exact List.prefix_rfl
  · exact Part.prefix_of_declares hdeclares

def structs (m : SourceModule) : List (String × String) :=
  m.items.filterMap fun
    | .struct item => some (m.path, item.name)
    | _ => none

mutual

/-- The structs of a module that an item of `home` declares, and then those of the modules inside
it. -/
def structsBelow (home : String) : Item → List (String × String)
  | .module attributes name (some items) =>
    if attributes.any Attribute.isTestOnly then []
    else structs ⟨Part.child home name, items⟩ ++ structsBelowAll (Part.child home name) items
  | _ => []

def structsBelowAll (home : String) : List Item → List (String × String)
  | [] => []
  | item :: rest => structsBelow home item ++ structsBelowAll home rest

end

/-- All structs in the order of the text, those of inner modules last. -/
def preorder (m : SourceModule) : List (String × String) :=
  m.structs ++ structsBelowAll m.path m.items

mutual

theorem structs_ofItem (home : String) (folders : List String) : ∀ item : Item,
    ((Part.ofItem home folders item).filterMap Part.module?).flatMap structs =
      structsBelow home item
  | .module attributes name none => by
    by_cases h : (Item.module attributes name none).isFollowed = true
    · rw [Part.ofItem_file h]
      simp only [structsBelow]
      rfl
    · rw [Bool.not_eq_true] at h
      rw [Part.ofItem_of_not_followed h]
      simp only [structsBelow]
      rfl
  | .module attributes name (some items) => by
    by_cases h : (Item.module attributes name (some items)).isFollowed = true
    · have htest : attributes.any Attribute.isTestOnly = false := by
        simpa [Item.isFollowed] using h
      rw [Part.ofItem_body h, structsBelow, htest, ← structs_ofItems _ (folders ++ [name]) items]
      rfl
    · have htest : attributes.any Attribute.isTestOnly = true := by
        simpa [Item.isFollowed] using h
      rw [Bool.not_eq_true] at h
      rw [Part.ofItem_of_not_followed h, structsBelow, htest]
      rfl
  | .use _ | .struct _ | .other _ | .synonym .. | .implementation _ | .silent => by
    simp only [Part.ofItem, structsBelow]
    rfl

theorem structs_ofItems (home : String) (folders : List String) : ∀ items : List Item,
    ((Part.ofItems home folders items).filterMap Part.module?).flatMap structs =
      structsBelowAll home items
  | [] => rfl
  | item :: rest => by
    rw [Part.ofItems, List.filterMap_append, List.flatMap_append,
      structs_ofItem home folders item, structs_ofItems home folders rest, structsBelowAll]

end

theorem structs_inText (m : SourceModule) : m.inText.flatMap structs = m.preorder := by
  rw [preorder, ← structs_ofItems m.path [] m.items]
  rfl

end SourceModule

namespace Resolver

theorem places_attach (interfaces : List (QualifiedName × ResolvedType)) (ds : List Declaration) :
    (attach interfaces ds).map Declaration.place = ds.map Declaration.place := by
  induction ds with
  | nil => rfl
  | cons d rest ih =>
    rw [attach, List.map_cons, List.map_cons, ih]
    split <;> rfl

/-- Declarations come module by module, and as they stand in each. -/
theorem places_declarations (r : Resolver) (c : Config) (modules : List SourceModule) :
    (r.declarations c modules).map Declaration.place = modules.flatMap SourceModule.structs := by
  unfold declarations
  rw [places_attach, List.map_flatMap]
  refine congrArg (List.flatMap · modules) (funext fun m => ?_)
  unfold SourceModule.structs
  rw [List.map_filterMap]
  refine congrArg (List.filterMap · m.items) (funext fun item => ?_)
  cases item <;> rfl

end Resolver

end ViewCompanion
