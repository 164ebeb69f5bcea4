import Mathlib.Logic.Basic
import ViewCompanion.Proofs.Crate.SelfType

namespace ViewCompanion

open Source

variable {aliases : List (QualifiedName × ResolvedType)} {t target u e : ResolvedType}

namespace ResolvedType

/-- The type that another stands for, which is a name alone. -/
def aliased? (aliases : List (QualifiedName × ResolvedType)) (t : ResolvedType) :
    Option ResolvedType :=
  if t.args = [] then aliases.lookup t.name else none

def IsAlias (aliases : List (QualifiedName × ResolvedType)) (t : ResolvedType) : Prop :=
  (t.aliased? aliases).isSome = true

/-- Some part of the type stands for another. -/
def HasAlias (aliases : List (QualifiedName × ResolvedType)) (t : ResolvedType) : Prop :=
  ∃ place u, t.at? place = some u ∧ u.IsAlias aliases

/-- Whoever replaces names for good and goes down to arguments comes from one type to another, with
so many names replaced and so many steps down. -/
inductive Reaches (aliases : List (QualifiedName × ResolvedType)) :
    (links nesting : Nat) → ResolvedType → ResolvedType → Prop
  | here {t : ResolvedType} : Reaches aliases 0 0 t t
  | link {links nesting : Nat} {t target u : ResolvedType} : t.aliased? aliases = some target →
      Reaches aliases links nesting target u → Reaches aliases (links + 1) nesting t u
  | down {links nesting : Nat} {t a u : ResolvedType} : a ∈ t.args →
      Reaches aliases links nesting a u → Reaches aliases links (nesting + 1) t u

/-- All names that stand for other types are replaced, however many there are in a row. -/
inductive Expanded (aliases : List (QualifiedName × ResolvedType)) :
    ResolvedType → ResolvedType → Prop
  | link {t target e : ResolvedType} : t.aliased? aliases = some target →
      Expanded aliases target e → Expanded aliases t e
  | node {t e : ResolvedType} : t.aliased? aliases = none → e.name = t.name →
      e.args.length = t.args.length →
      (∀ (i : Nat) (ht : i < t.args.length) (he : i < e.args.length),
        Expanded aliases t.args[i] e.args[i]) →
      Expanded aliases t e

/-- An alias stands so deep, names replaced and steps down taken together. -/
def HasAliasBelow (aliases : List (QualifiedName × ResolvedType)) (depth : Nat)
    (t : ResolvedType) : Prop :=
  ∃ links nesting u, depth ≤ links + nesting ∧ Reaches aliases links nesting t u ∧
    u.IsAlias aliases

theorem args_of_aliased? (h : t.aliased? aliases = some target) : t.args = [] := by
  unfold aliased? at h
  exact ((Option.ite_none_right_eq_some ..).1 h).1

theorem aliased?_congr (hname : e.name = t.name) (hargs : e.args.length = t.args.length) :
    e.aliased? aliases = t.aliased? aliases := by
  have hempty : e.args = [] ↔ t.args = [] := by
    rw [← List.length_eq_zero_iff, hargs, List.length_eq_zero_iff]
  simp only [aliased?, hname, hempty]

theorem not_isAlias_iff : ¬ t.IsAlias aliases ↔ t.aliased? aliases = none := by
  rw [IsAlias, Bool.not_eq_true, Option.isSome_eq_false_iff, Option.isNone_iff_eq_none]

theorem hasAlias_iff :
    t.HasAlias aliases ↔ t.IsAlias aliases ∨ ∃ a ∈ t.args, a.HasAlias aliases := by
  constructor
  · rintro ⟨place, u, hat, hu⟩
    cases place with
    | nil =>
      obtain rfl := Option.some.inj hat
      exact .inl hu
    | cons i rest =>
      obtain ⟨a, ha, hat⟩ := Option.bind_eq_some_iff.1 hat
      exact .inr ⟨a, List.mem_of_getElem? ha, rest, u, hat, hu⟩
  · rintro (h | ⟨a, ha, place, u, hat, hu⟩)
    · exact ⟨[], t, rfl, h⟩
    · obtain ⟨i, hi⟩ := List.mem_iff_getElem?.1 ha
      refine ⟨i :: place, u, ?_, hu⟩
      rw [at?, hi, Option.bind_some, hat]

theorem hasAliasBelow_zero : t.HasAliasBelow aliases 0 ↔ t.HasAlias aliases := by
  constructor
  · rintro ⟨links, nesting, u, -, hreach, hu⟩
    induction hreach with
    | here => exact hasAlias_iff.2 (.inl hu)
    | link h => exact hasAlias_iff.2 (.inl (Option.isSome_of_eq_some h))
    | down ha _ ih => exact hasAlias_iff.2 (.inr ⟨_, ha, ih hu⟩)
  · rintro ⟨place, u, hat, hu⟩
    -- on the place: each of its positions is a step down
    induction place generalizing t with
    | nil =>
      obtain rfl := Option.some.inj hat
      exact ⟨0, 0, t, Nat.zero_le _, .here, hu⟩
    | cons i rest ih =>
      obtain ⟨a, ha, hat⟩ := Option.bind_eq_some_iff.1 hat
      obtain ⟨links, nesting, v, -, hreach, hv⟩ := ih hat
      exact ⟨links, nesting + 1, v, Nat.zero_le _, .down (List.mem_of_getElem? ha) hreach, hv⟩

theorem hasAliasBelow_link {depth : Nat} (h : t.aliased? aliases = some target) :
    t.HasAliasBelow aliases (depth + 1) ↔ target.HasAliasBelow aliases depth := by
  constructor
  · rintro ⟨links, nesting, u, hdepth, hreach, hu⟩
    cases hreach with
    | here => omega
    | @link links _ _ _ _ h' hreach =>
      obtain rfl := Option.some.inj (h.symm.trans h')
      exact ⟨links, nesting, u, by omega, hreach, hu⟩
    | down ha => simp [args_of_aliased? h] at ha
  · rintro ⟨links, nesting, u, hdepth, hreach, hu⟩
    exact ⟨links + 1, nesting, u, by omega, .link h hreach, hu⟩

theorem hasAliasBelow_node {depth : Nat} (h : t.aliased? aliases = none) :
    t.HasAliasBelow aliases (depth + 1) ↔ ∃ a ∈ t.args, a.HasAliasBelow aliases depth := by
  constructor
  · rintro ⟨links, nesting, u, hdepth, hreach, hu⟩
    cases hreach with
    | here => omega
    | link h' => simp [h] at h'
    | @down _ nesting _ a _ ha hreach => exact ⟨a, ha, links, nesting, u, by omega, hreach, hu⟩
  · rintro ⟨a, ha, links, nesting, u, hdepth, hreach, hu⟩
    exact ⟨links, nesting + 1, u, by omega, .down ha hreach, hu⟩

namespace Expanded

theorem not_hasAlias (h : Expanded aliases t e) : ¬ e.HasAlias aliases := by
  induction h with
  | link _ _ ih => exact ih
  | @node t e hnone hname hlength _ ih =>
    rw [hasAlias_iff, not_or, not_isAlias_iff, aliased?_congr hname hlength]
    refine ⟨hnone, ?_⟩
    rintro ⟨a, ha, halias⟩
    obtain ⟨i, hi, rfl⟩ := List.getElem_of_mem ha
    exact ih i (hlength ▸ hi) hi halias

theorem unique (h : Expanded aliases t e) (h' : Expanded aliases t u) : e = u := by
  induction h generalizing u with
  | link hsome _ ih =>
    cases h' with
    | link hsome' h' =>
      obtain rfl := Option.some.inj (hsome.symm.trans hsome')
      exact ih h'
    | node hnone => simp [hnone] at hsome
  | @node t e hnone hname hlength _ ih =>
    cases h' with
    | link hsome => simp [hnone] at hsome
    | node _ hname' hlength' hargs' =>
      have hargs : e.args = u.args :=
        List.ext_getElem (hlength.trans hlength'.symm) fun i hi hi' =>
          ih i (hlength ▸ hi) hi (hargs' i (hlength ▸ hi) hi')
      cases e
      cases u
      exact congrArg₂ ResolvedType.mk (hname.trans hname'.symm) hargs

theorem refl (t : ResolvedType) (h : ¬ t.HasAlias aliases) : Expanded aliases t t := by
  rw [hasAlias_iff, not_or, not_isAlias_iff] at h
  refine .node h.1 rfl rfl fun i hi _ => refl t.args[i] fun halias => ?_
  exact h.2 ⟨_, List.getElem_mem hi, halias⟩
termination_by sizeOf t
decreasing_by
  have harg := List.sizeOf_lt_of_mem (List.getElem_mem hi)
  have hargs : sizeOf t.args < sizeOf t := by
    cases t
    simp only [mk.sizeOf_spec]
    omega
  omega

end Expanded

end ResolvedType

namespace Resolver

open ResolvedType

theorem expand_link {depth : Nat} (h : t.aliased? aliases = some target) :
    expand aliases (depth + 1) t = expand aliases depth target := by
  have hargs := args_of_aliased? h
  rw [aliased?, if_pos hargs] at h
  rw [expand, hargs, h]

theorem expand_node {depth : Nat} (h : t.aliased? aliases = none) :
    expand aliases (depth + 1) t = ⟨t.name, t.args.map (expand aliases depth)⟩ := by
  rw [expand]
  split
  · next hargs hsome =>
    rw [aliased?, if_pos hargs, hsome] at h
    cases h
  · rfl

theorem hasAlias_expand_iff (depth : Nat) (t : ResolvedType) :
    (expand aliases depth t).HasAlias aliases ↔ t.HasAliasBelow aliases depth := by
  induction depth generalizing t with
  | zero => exact hasAliasBelow_zero.symm
  | succ depth ih =>
    cases h : t.aliased? aliases with
    | some target => rw [expand_link h, hasAliasBelow_link h, ih]
    | none =>
      have hsame : aliased? aliases ⟨t.name, t.args.map (expand aliases depth)⟩ =
          t.aliased? aliases := aliased?_congr rfl (List.length_map _)
      rw [expand_node h, hasAliasBelow_node h, hasAlias_iff,
        or_iff_right (not_isAlias_iff.2 (hsame.trans h))]
      simp only [List.mem_map, exists_exists_and_eq_and, ih]

theorem expanded_expand (depth : Nat) (t : ResolvedType)
    (h : ¬ (expand aliases depth t).HasAlias aliases) :
    Expanded aliases t (expand aliases depth t) := by
  induction depth generalizing t with
  | zero => exact .refl t h
  | succ depth ih =>
    cases halias : t.aliased? aliases with
    | some target =>
      rw [expand_link halias] at h ⊢
      exact .link halias (ih target h)
    | none =>
      rw [expand_node halias] at h ⊢
      refine .node halias rfl (List.length_map _) fun i hi _ => ?_
      rw [List.getElem_map]
      refine ih _ fun hleft => h (hasAlias_iff.2 (.inr ⟨_, ?_, hleft⟩))
      exact List.mem_map_of_mem (List.getElem_mem hi)

/-- An alias is left over exactly if one stands too deep, the names replaced on the way and the
steps down to arguments taken together; one that comes back to itself always is. The result is the
full expansion of the type if and only if none is left over. -/
theorem expand_leaves_deep_aliases (aliases : List (QualifiedName × ResolvedType)) (depth : Nat)
    (t : ResolvedType) :
    ((expand aliases depth t).HasAlias aliases ↔
      ∃ links nesting u, depth ≤ links + nesting ∧ Reaches aliases links nesting t u ∧
        u.IsAlias aliases) ∧
    (Expanded aliases t (expand aliases depth t) ↔
      ¬ (expand aliases depth t).HasAlias aliases) ∧
    ∀ e, Expanded aliases t e →
      (expand aliases depth t = e ↔ ¬ (expand aliases depth t).HasAlias aliases) := by
  refine ⟨hasAlias_expand_iff depth t, ⟨Expanded.not_hasAlias, expanded_expand depth t⟩,
    fun e he => ⟨?_, fun hnone => (expanded_expand depth t hnone).unique he⟩⟩
  rintro rfl
  exact he.not_hasAlias

/-- It takes two steps to replace a name that stands one angle bracket deep. -/
theorem expand_leaves_deep_aliases_option :
    let aliases := [("crate::Id", .plain "u64")]
    let t : ResolvedType := ⟨"Option", [.plain "crate::Id"]⟩
    let full : ResolvedType := ⟨"Option", [.plain "u64"]⟩
    (expand aliases 1 t).HasAlias aliases ∧
      Expanded aliases t full ∧ expand aliases maxAliasDepth t = full := by
  intro aliases t full
  have hleft : (expand aliases 1 t).HasAlias aliases :=
    (expand_leaves_deep_aliases aliases 1 t).1.2
      ⟨0, 1, .plain "crate::Id", by decide, .down (List.mem_singleton_self _) .here, rfl⟩
  have hplain : ¬ (ResolvedType.plain "u64").HasAlias aliases := by
    rw [hasAlias_iff]
    rintro (h | ⟨a, ha, -⟩)
    · cases h
    · cases ha
  have hfull : Expanded aliases t full := by
    refine .node rfl rfl rfl fun i ht _ => ?_
    obtain rfl : i = 0 := Nat.lt_one_iff.1 ht
    have hid : (ResolvedType.plain "crate::Id").aliased? aliases = some (.plain "u64") := rfl
    exact .link hid (.refl _ hplain)
  have hnone : ¬ (expand aliases maxAliasDepth t).HasAlias aliases := hfull.not_hasAlias
  obtain ⟨-, -, hunique⟩ := expand_leaves_deep_aliases aliases maxAliasDepth t
  exact ⟨hleft, hfull, (hunique full hfull).2 hnone⟩

/-- One name for `u64`, and a member with this name eight angle brackets deep. -/
def deepAlias : String :=
  "pub type Id = u64;\n\npub struct Card \x7b\n" ++
  "    pub id: Option<Option<Option<Option<Option<Option<Option<Option<Id>>>>>>>>,\n\x7d\n"

/-- The name stands for a type that is no alias, in one step, yet it is left over in the member. -/
theorem deep_alias_left :
    let aliases := [("crate::Id", .plain "u64")]
    (itemsOfFile? deepAlias).map (fun items =>
      let modules := SourceModule.inText ⟨"crate", items⟩
      (ofModules .standard modules).aliasesOf modules) = some aliases ∧
    (ResolvedType.plain "crate::Id").aliased? aliases = some (.plain "u64") ∧
    (ResolvedType.plain "u64").aliased? aliases = none ∧
    (Snapshot.ofText? .standard deepAlias).map (fun s => s.declarations.flatMap fun d =>
      d.members.map fun m => m.type.at? [0, 0, 0, 0, 0, 0, 0, 0]) =
      some [some (.plain "crate::Id")] := by
  decide +kernel

end Resolver

end ViewCompanion
