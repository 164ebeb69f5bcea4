import Mathlib.Data.List.Induction
import ViewCompanion.Proofs.Crate.ImportOrder
import ViewCompanion.View.Registry

namespace ViewCompanion

open Source

variable {c : Config} {modules : List SourceModule} {name : QualifiedName}

def Config.Refers (c : Config) (name : QualifiedName) : Prop :=
  name ∈ runtimeNames ∨ name ∈ c.extraReferences

theorem Config.mem_references : name ∈ c.references ↔ c.Refers name := by
  rw [references, NameSet.mem_ofList, List.mem_append]
  rfl

namespace SourceModule

def HasStruct (m : SourceModule) (name : QualifiedName) : Prop :=
  ∃ item, .struct item ∈ m.items ∧ name = QualifiedName.join m.path item.name

/-- The module has an item of this name: a struct, an enumeration, a union, a trait, or a name for
another type. -/
def HasLocal (m : SourceModule) (name : QualifiedName) : Prop :=
  ∃ item ∈ m.items, ∃ local' ∈ item.localName?, name = QualifiedName.join m.path local'

theorem mem_structs {m : SourceModule} {place : String × String} :
    place ∈ m.structs ↔ ∃ item, .struct item ∈ m.items ∧ place = (m.path, item.name) := by
  unfold structs
  rw [List.mem_filterMap]
  constructor
  · rintro ⟨item, hitem, hplace⟩
    cases item with
    | struct item => exact ⟨item, hitem, (Option.some.inj hplace).symm⟩
    | _ => cases hplace
  · rintro ⟨item, hitem, rfl⟩
    exact ⟨_, hitem, rfl⟩

theorem lastBody?_concat (modules : List SourceModule) (m : SourceModule) (path : String) :
    lastBody? (modules ++ [m]) path =
      if m.path == path then some m else lastBody? modules path := by
  unfold lastBody?
  rw [List.reverse_append, List.reverse_singleton, List.singleton_append, List.find?_cons]
  cases m.path == path <;> rfl

theorem of_lastBody? {m : SourceModule} {path : String} (h : lastBody? modules path = some m) :
    m ∈ modules ∧ m.path = path := by
  refine ⟨List.mem_reverse.1 (List.mem_of_find?_eq_some h), ?_⟩
  simpa using List.find?_some h

end SourceModule

namespace Resolver

/-- There is one scope for each module, that of its last body. -/
theorem mem_scopesOf_iff {path : String} {scope : Scope} : (path, scope) ∈ scopesOf modules ↔
    ∃ m, SourceModule.lastBody? modules path = some m ∧ m.scope = scope := by
  induction modules using List.reverseRecOn with
  | nil => simp [scopesOf, SourceModule.lastBody?]
  | append_singleton modules m ih =>
    have hstep : scopesOf (modules ++ [m]) = addScope (scopesOf modules) m := by
      rw [scopesOf_eq_foldl, scopesOf_eq_foldl, List.foldl_append]
      rfl
    rw [hstep, SourceModule.lastBody?_concat, addScope, List.mem_cons, List.mem_filter, ih]
    by_cases hpath : m.path = path
    · subst hpath
      simp [@eq_comm _ scope]
    · simp [hpath, Ne.symm hpath]

theorem mem_localNames : name ∈ localNames (scopesOf modules) ↔
    ∃ m, SourceModule.lastBody? modules m.path = some m ∧ m.HasLocal name := by
  unfold localNames
  rw [List.mem_flatMap]
  constructor
  · rintro ⟨⟨path, scope⟩, hscope, hname⟩
    obtain ⟨m, hlast, rfl⟩ := mem_scopesOf_iff.1 hscope
    obtain ⟨-, rfl⟩ := SourceModule.of_lastBody? hlast
    obtain ⟨local', hlocal, rfl⟩ := List.mem_map.1 hname
    rw [SourceModule.locals_scope] at hlocal
    obtain ⟨item, hitem, hlocal⟩ := List.mem_filterMap.1 hlocal
    exact ⟨m, hlast, item, hitem, local', hlocal, rfl⟩
  · rintro ⟨m, hlast, item, hitem, local', hlocal, rfl⟩
    refine ⟨(m.path, m.scope), mem_scopesOf_iff.2 ⟨m, hlast, rfl⟩, List.mem_map_of_mem ?_⟩
    rw [SourceModule.locals_scope]
    exact List.mem_filterMap.2 ⟨item, hitem, hlocal⟩

/-- Known are the names of other crates, and those of the items in the last body of each module. -/
theorem knows_ofModules_iff : (ofModules c modules).knows name = true ↔
    c.Refers name ∨
      ∃ m, SourceModule.lastBody? modules m.path = some m ∧ m.HasLocal name := by
  unfold knows ofModules
  rw [NameSet.contains_iff, NameSet.mem_union, Config.mem_references, mem_localNames]

end Resolver

namespace Snapshot

theorem declares_iff (r : Resolver) : (r.declarations c modules).any
      (fun d => d.qualifiedName == name) = true ↔ ∃ m ∈ modules, m.HasStruct name := by
  have hplaces := r.places_declarations c modules
  rw [List.any_eq_true]
  constructor
  · rintro ⟨d, hd, hname⟩
    have hplace : d.place ∈ modules.flatMap SourceModule.structs :=
      hplaces ▸ List.mem_map_of_mem hd
    obtain ⟨m, hm, hplace⟩ := List.mem_flatMap.1 hplace
    obtain ⟨item, hitem, hplace⟩ := SourceModule.mem_structs.1 hplace
    refine ⟨m, hm, item, hitem, (beq_iff_eq.1 hname).symm.trans ?_⟩
    exact congrArg (fun place => QualifiedName.join place.1 place.2) hplace
  · rintro ⟨m, hm, item, hitem, rfl⟩
    have hplace : (m.path, item.name) ∈ (r.declarations c modules).map Declaration.place :=
      hplaces ▸ List.mem_flatMap.2 ⟨m, hm, SourceModule.mem_structs.2 ⟨item, hitem, rfl⟩⟩
    obtain ⟨d, hd, hplace⟩ := List.mem_map.1 hplace
    refine ⟨d, hd, beq_iff_eq.2 ?_⟩
    exact congrArg (fun place => QualifiedName.join place.1 place.2) hplace

theorem defines_ofModules_iff : (ofModules c modules).defines name = true ↔
    c.Refers name ∨ ∃ m ∈ modules, m.HasStruct name := by
  unfold defines ofModules
  rw [Bool.or_eq_true, NameSet.contains_iff, Config.mem_references, declares_iff]

/-- Of a crate's own items a registry finds the structs, those of all modules. Its resolver knows
enumerations, unions, traits and names for other types as well, of the last body of each module. -/
theorem registry_finds_structs (c : Config) (modules : List SourceModule) (name : QualifiedName) :
    ((ofModules c modules).defines name = true ↔
      c.Refers name ∨ ∃ m ∈ modules, m.HasStruct name) ∧
    (∀ (names : WellKnown) (role : Role),
      (Registry.ofSnapshot (ofModules c modules) names).get? role = some name ↔
        names.name role = name ∧ (c.Refers name ∨ ∃ m ∈ modules, m.HasStruct name)) ∧
    ((Resolver.ofModules c modules).knows name = true ↔
      c.Refers name ∨
        ∃ m, SourceModule.lastBody? modules m.path = some m ∧ m.HasLocal name) := by
  refine ⟨defines_ofModules_iff, fun names role => ?_, Resolver.knows_ofModules_iff⟩
  rw [Registry.get?_ofSnapshot, Option.ite_none_right_eq_some, Option.some_inj, and_comm]
  refine and_congr_right ?_
  rintro rfl
  exact defines_ofModules_iff

def ownKinds : String :=
  "pub enum Id {
    One,
}

" ++
  "pub union Picture {
    pub bits: u64,
}

" ++
  "pub trait View {}
"

/-- They are to stand for the names that views depend on. -/
def ownNames : WellKnown :=
  { WellKnown.standard with
    snowflake := "crate::Id", embed := "crate::Picture", capability := "crate::View" }

/-- The resolver knows all three names, but none of them is found. -/
theorem own_kinds_not_found :
    (itemsOfFile? ownKinds).map (fun items =>
      let r := Resolver.ofModules .standard (SourceModule.inText ⟨"crate", items⟩)
      [Role.snowflake, Role.embed, Role.capability].map fun role =>
        r.knows (ownNames.name role)) = some [true, true, true] ∧
    (ofText? .standard ownKinds).map (fun s =>
      [Role.snowflake, Role.embed, Role.capability].map fun role =>
        (s.defines (ownNames.name role), (Registry.ofSnapshot s ownNames).get? role)) =
      some [(false, none), (false, none), (false, none)] := by
  decide +kernel

end Snapshot

end ViewCompanion
