import Mathlib.Data.List.Forall2
import Mathlib.Data.Nat.Find
import ViewCompanion.Generation
import ViewCompanion.Message.Payload
import ViewCompanion.Proofs.View.Sorting

namespace ViewCompanion

namespace Payload

variable {p : Payload} {components : List Component} {index : Nat} {fault : Fault}

theorem firstComponentFault?_eq_some_iff :
    firstComponentFault? index components = some fault ↔
      ∃ i c, components[i]? = some c ∧ componentFault? (index + i) c = some fault ∧
        ∀ j < i, ∀ d, components[j]? = some d → componentFault? (index + j) d = none := by
  induction components generalizing index with
  | nil => simp [firstComponentFault?]
  | cons first rest ih =>
    cases hfirst : componentFault? index first with
    | some found =>
      rw [firstComponentFault?, hfirst]
      constructor
      · intro h
        exact ⟨0, first, rfl, hfirst.trans h, by omega⟩
      · rintro ⟨i, c, hc, hfault, hbefore⟩
        cases i with
        | zero =>
          obtain rfl : first = c := Option.some.inj hc
          exact hfirst.symm.trans hfault
        | succ i =>
          have hnone : componentFault? index first = none := hbefore 0 (by omega) first rfl
          rw [hfirst] at hnone
          cases hnone
    | none =>
      have hrest : firstComponentFault? index (first :: rest) =
          firstComponentFault? (index + 1) rest := by
        rw [firstComponentFault?, hfirst]
        rfl
      -- an index into the rest is one less than into the whole
      have hshift (i : Nat) : index + 1 + i = index + (i + 1) := by omega
      rw [hrest, ih]
      simp only [hshift]
      constructor
      · rintro ⟨i, c, hc, hfault, hbefore⟩
        refine ⟨i + 1, c, hc, hfault, ?_⟩
        intro j hj d hd
        cases j with
        | zero =>
          obtain rfl : first = d := Option.some.inj hd
          exact hfirst
        | succ j => exact hbefore j (by omega) d hd
      · rintro ⟨i, c, hc, hfault, hbefore⟩
        cases i with
        | zero =>
          obtain rfl : first = c := Option.some.inj hc
          rw [Nat.add_zero, hfirst] at hfault
          cases hfault
        | succ i =>
          refine ⟨i, c, hc, hfault, ?_⟩
          intro j hj d hd
          exact hbefore (j + 1) (by omega) d hd

/-- The counts that are checked before the components are looked at. -/
structure KeepsCounts (p : Payload) : Prop where
  content : p.contentLength ≤ maxContentLength
  embeds : p.embeds.length ≤ maxEmbeds
  stickers : p.stickers.length ≤ maxStickers

/-- Whether the fault is about rows or what is in them. -/
def Fault.isOfRows : Fault → Bool
  | tooManyActionRows .. | componentOutsideRow _ | emptyActionRow _ | tooManyRowComponents ..
  | nestedActionRow _ => true
  | _ => false

section Counts

variable (hrows : p.components.length ≤ maxActionRows)

include hrows

/-- With few enough rows, the components are looked at unless the message fails for something
else. -/
theorem fault?_cases :
    (p.isEmpty = false ∧ p.KeepsCounts ∧ p.fault? = firstComponentFault? 0 p.components) ∨
      (p.isEmpty = true ∨ ¬ p.KeepsCounts) ∧
        ∃ fault, p.fault? = some fault ∧ fault.isOfRows = false := by
  unfold fault?
  by_cases hempty : p.isEmpty = true
  · rw [if_pos hempty]
    exact .inr ⟨.inl hempty, _, rfl, rfl⟩
  rw [if_neg hempty]
  by_cases hcontent : maxContentLength < p.contentLength
  · rw [if_pos hcontent]
    exact .inr ⟨.inr fun h => Nat.not_lt.2 h.content hcontent, _, rfl, rfl⟩
  rw [if_neg hcontent]
  by_cases hembeds : maxEmbeds < p.embeds.length
  · rw [if_pos hembeds]
    exact .inr ⟨.inr fun h => Nat.not_lt.2 h.embeds hembeds, _, rfl, rfl⟩
  rw [if_neg hembeds]
  by_cases hstickers : maxStickers < p.stickers.length
  · rw [if_pos hstickers]
    exact .inr ⟨.inr fun h => Nat.not_lt.2 h.stickers hstickers, _, rfl, rfl⟩
  rw [if_neg hstickers, if_neg (Nat.not_lt.2 hrows)]
  have hcounts : p.KeepsCounts :=
    ⟨Nat.not_lt.1 hcontent, Nat.not_lt.1 hembeds, Nat.not_lt.1 hstickers⟩
  exact .inl ⟨Bool.not_eq_true _ ▸ hempty, hcounts, rfl⟩

theorem fault?_eq_some_iff_of_isOfRows (hfault : fault.isOfRows = true) :
    p.fault? = some fault ↔ p.KeepsCounts ∧ firstComponentFault? 0 p.components = some fault := by
  rcases fault?_cases hrows with ⟨-, hcounts, heq⟩ | ⟨hearly, other, heq, hother⟩
  · rw [heq]
    exact (and_iff_right hcounts).symm
  · rw [heq]
    constructor
    · rintro ⟨⟩
      rw [hfault] at hother
      cases hother
    · rintro ⟨hcounts, hfirst⟩
      rcases hearly with hempty | hnot
      · have hnil : p.components = [] := by
          unfold isEmpty at hempty
          simp_all
        rw [hnil] at hfirst
        cases hfirst
      · exact absurd hcounts hnot

theorem fault?_eq_none_iff : p.fault? = none ↔
    p.isEmpty = false ∧ p.KeepsCounts ∧ firstComponentFault? 0 p.components = none := by
  rcases fault?_cases hrows with ⟨hempty, hcounts, heq⟩ | ⟨hearly, other, heq, -⟩
  · simp [heq, hempty, hcounts]
  · rw [heq]
    constructor
    · rintro ⟨⟩
    · rintro ⟨hnonempty, hcounts, -⟩
      rcases hearly with hempty | hnot
      · rw [hnonempty] at hempty
        cases hempty
      · exact absurd hcounts hnot

end Counts

theorem validate_eq_error_iff : p.validate = .error fault ↔ p.fault? = some fault := by
  unfold validate
  cases p.fault? <;> simp

theorem validate_eq_ok_iff : p.validate = .ok () ↔ p.fault? = none := by
  unfold validate
  cases p.fault? <;> simp

end Payload

namespace RowGroup

/-- The component is a row with one component for each member of the group, and none of these is a
row itself. -/
def IsFilledBy (group : RowGroup) (c : Component) : Prop :=
  ∃ parts, c = .row parts ∧ parts.length = group.members.length ∧
    ∀ part ∈ parts, part.isRow = false

theorem isFilledBy_of_assignment {assigned : String → Component}
    (h : ∀ name, (assigned name).isRow = false) (groups : List RowGroup) :
    List.Forall₂ IsFilledBy groups
      (groups.map fun group => .row (group.members.map assigned)) := by
  rw [List.forall₂_map_right_iff, List.forall₂_same]
  intro group _
  refine ⟨_, rfl, List.length_map _, ?_⟩
  rw [List.forall_mem_map]
  exact fun name _ => h name

/-- A row for a group with members can only have too many components. -/
theorem IsFilledBy.componentFault?_eq {group : RowGroup} {c : Component} (h : group.IsFilledBy c)
    (hne : group.members ≠ []) (index : Nat) : Payload.componentFault? index c =
      if Payload.maxRowComponents < group.members.length then
        some (.tooManyRowComponents index group.members.length Payload.maxRowComponents)
      else none := by
  obtain ⟨parts, rfl, hlength, hparts⟩ := h
  have hnonempty : parts.isEmpty = false := by
    rw [List.isEmpty_eq_false_iff, ← List.length_pos_iff, hlength]
    exact List.length_pos_iff.2 hne
  have hflat : parts.any Component.isRow = false := by
    rw [List.any_eq_false]
    intro part hpart
    simp [hparts part hpart]
  unfold Payload.componentFault?
  simp only [hnonempty, hflat, hlength, Bool.false_eq_true, if_false]

/-- The group at `i` is the first one with more members than a row may have components. -/
def IsFirstOverfull (groups : List RowGroup) (i : Nat) (group : RowGroup) : Prop :=
  groups[i]? = some group ∧ Payload.maxRowComponents < group.members.length ∧
    ∀ j < i, ∀ other, groups[j]? = some other → other.members.length ≤ Payload.maxRowComponents

theorem exists_isFirstOverfull {groups : List RowGroup} {group : RowGroup} (hmem : group ∈ groups)
    (hover : Payload.maxRowComponents < group.members.length) :
    ∃ i first, IsFirstOverfull groups i first := by
  classical
  have hexists : ∃ i : Nat, ∃ group : RowGroup, groups[i]? = some group ∧
      Payload.maxRowComponents < group.members.length := by
    obtain ⟨i, hi⟩ := List.getElem?_of_mem hmem
    exact ⟨i, group, hi, hover⟩
  obtain ⟨first, hfirst, hlarge⟩ := Nat.find_spec hexists
  refine ⟨Nat.find hexists, first, hfirst, hlarge, ?_⟩
  intro j hj other hother
  by_contra hlt
  exact Nat.find_min hexists hj ⟨other, hother, Nat.not_le.1 hlt⟩

theorem IsFirstOverfull.mem {groups : List RowGroup} {group : RowGroup} {i : Nat}
    (h : IsFirstOverfull groups i group) : group ∈ groups :=
  List.mem_of_getElem? h.1

section Filled

variable {groups : List RowGroup} {components : List Component}
  (hrows : List.Forall₂ IsFilledBy groups components)
  (hne : ∀ group ∈ groups, group.members ≠ [])

include hrows hne

/-- Rows for groups fail at the first group that has too many members. -/
theorem firstComponentFault?_eq_some_iff {fault : Payload.Fault} :
    Payload.firstComponentFault? 0 components = some fault ↔ ∃ i group,
      IsFirstOverfull groups i group ∧
      fault = .tooManyRowComponents i group.members.length Payload.maxRowComponents := by
  have hfilled (i : Nat) (group : RowGroup) (c : Component) (hgroup : groups[i]? = some group)
      (hc : components[i]? = some c) : Payload.componentFault? i c =
        if Payload.maxRowComponents < group.members.length then
          some (.tooManyRowComponents i group.members.length Payload.maxRowComponents)
        else none := by
    obtain ⟨hi, rfl⟩ := List.getElem?_eq_some_iff.1 hgroup
    obtain ⟨hi', rfl⟩ := List.getElem?_eq_some_iff.1 hc
    exact (hrows.get hi hi').componentFault?_eq (hne _ (List.getElem_mem hi)) i
  have hpaired (i : Nat) : (∃ group, groups[i]? = some group) ↔ ∃ c, components[i]? = some c := by
    simp only [List.getElem?_eq_some_iff, hrows.length_eq]
    simp
  rw [Payload.firstComponentFault?_eq_some_iff]
  simp only [Nat.zero_add]
  constructor
  · rintro ⟨i, c, hc, hfault, hbefore⟩
    obtain ⟨group, hgroup⟩ := (hpaired i).2 ⟨c, hc⟩
    rw [hfilled i group c hgroup hc] at hfault
    split at hfault
    · rename_i hover
      refine ⟨i, group, ⟨hgroup, hover, ?_⟩, (Option.some.inj hfault).symm⟩
      intro j hj other hother
      obtain ⟨d, hd⟩ := (hpaired j).1 ⟨other, hother⟩
      have hnone := hbefore j hj d hd
      rw [hfilled j other d hother hd] at hnone
      split at hnone
      · cases hnone
      · exact Nat.not_lt.1 ‹_›
    · cases hfault
  · rintro ⟨i, group, ⟨hgroup, hover, hbefore⟩, rfl⟩
    obtain ⟨c, hc⟩ := (hpaired i).1 ⟨group, hgroup⟩
    refine ⟨i, c, hc, ?_, ?_⟩
    · rw [hfilled i group c hgroup hc, if_pos hover]
    · intro j hj d hd
      obtain ⟨other, hother⟩ := (hpaired j).2 ⟨d, hd⟩
      rw [hfilled j other d hother hd, if_neg (Nat.not_lt.2 (hbefore j hj other hother))]

theorem firstComponentFault?_eq_none_iff : Payload.firstComponentFault? 0 components = none ↔
    ∀ group ∈ groups, group.members.length ≤ Payload.maxRowComponents := by
  constructor
  · intro hnone group hmem
    by_contra hlarge
    obtain ⟨i, first, hfirst⟩ := exists_isFirstOverfull hmem (Nat.not_le.1 hlarge)
    have hsome := (firstComponentFault?_eq_some_iff hrows hne).2 ⟨i, first, hfirst, rfl⟩
    rw [hnone] at hsome
    cases hsome
  · intro hsmall
    rw [Option.eq_none_iff_forall_ne_some]
    intro fault hsome
    obtain ⟨i, first, hfirst, -⟩ := (firstComponentFault?_eq_some_iff hrows hne).1 hsome
    exact Nat.not_lt.2 (hsmall first hfirst.mem) hfirst.2.1

end Filled

theorem length_le_of_checkLimit {groups : List RowGroup} {max : Nat}
    (h : checkLimit groups (some max) = .ok ()) : groups.length ≤ max := by
  unfold checkLimit at h
  dsimp only at h
  split at h
  · cases h
  · exact Nat.not_lt.1 ‹_›

end RowGroup

/-- The limit of a run fits that of the messages: once a view is accepted with at most five rows, a
message that has its rows filled fails for them only if a row has too many members, and then for the
first such row. Everything else about the message is free. -/
theorem Payload.validate_of_process {c : Config} {m : UInt64} {d : Declaration} {r : Registry}
    {v : ClassifiedView} {p : Payload} (hmax : c.maxActionRows = some m) (hm : m ≤ 5)
    (h : d.process r c.rowLimit = .ok v)
    (hrows : List.Forall₂ RowGroup.IsFilledBy v.actionRows p.components) :
    (∀ count max, p.validate ≠ .error (.tooManyActionRows count max)) ∧
    (∀ row, p.validate ≠ .error (.emptyActionRow row)) ∧
    (∀ row, p.validate ≠ .error (.nestedActionRow row)) ∧
    (∀ index, p.validate ≠ .error (.componentOutsideRow index)) ∧
    (∀ i count max, p.validate = .error (.tooManyRowComponents i count max) ↔ p.KeepsCounts ∧
      ∃ group, RowGroup.IsFirstOverfull v.actionRows i group ∧ count = group.members.length ∧
        max = maxRowComponents) ∧
    ((∃ i count max, p.validate = .error (.tooManyRowComponents i count max)) ↔ p.KeepsCounts ∧
      ∃ group ∈ v.actionRows, maxRowComponents < group.members.length) ∧
    (p.validate = .ok () ↔ p.isEmpty = false ∧ p.KeepsCounts ∧
      ∀ group ∈ v.actionRows, group.members.length ≤ maxRowComponents) := by
  obtain ⟨-, labelled, -, hv, hlimit⟩ := Declaration.exists_labelled_of_process h
  have hne : ∀ group ∈ v.actionRows, group.members ≠ [] := by
    rw [hv]
    exact RowGroup.members_ne_nil_ofSlots _
  have hlength : p.components.length ≤ maxActionRows := by
    have hfive : m.toNat ≤ 5 := UInt64.le_iff_toNat_le.1 hm
    rw [Config.rowLimit, hmax] at hlimit
    rw [← hrows.length_eq]
    exact Nat.le_trans (RowGroup.length_le_of_checkLimit hlimit) hfive
  -- of all faults about rows, only the one of the first overfull row can come
  have hfound {fault : Fault} (hfault : fault.isOfRows = true) :
      p.validate = .error fault ↔ p.KeepsCounts ∧ ∃ i group,
        RowGroup.IsFirstOverfull v.actionRows i group ∧
        fault = .tooManyRowComponents i group.members.length maxRowComponents := by
    rw [validate_eq_error_iff, fault?_eq_some_iff_of_isOfRows hlength hfault,
      RowGroup.firstComponentFault?_eq_some_iff hrows hne]
  have hnever {fault : Fault} (hfault : fault.isOfRows = true)
      (hother : ∀ i count max, fault ≠ .tooManyRowComponents i count max) :
      p.validate ≠ .error fault := by
    intro herror
    obtain ⟨-, i, group, -, heq⟩ := (hfound hfault).1 herror
    exact hother _ _ _ heq
  have hover (i count max : Nat) : p.validate = .error (.tooManyRowComponents i count max) ↔
      p.KeepsCounts ∧ ∃ group, RowGroup.IsFirstOverfull v.actionRows i group ∧
        count = group.members.length ∧ max = maxRowComponents := by
    rw [hfound rfl]
    simp only [Fault.tooManyRowComponents.injEq]
    constructor
    · rintro ⟨hcounts, j, group, hfirst, rfl, heq⟩
      exact ⟨hcounts, group, hfirst, heq⟩
    · rintro ⟨hcounts, group, hfirst, heq⟩
      exact ⟨hcounts, i, group, hfirst, rfl, heq⟩
  refine ⟨fun count max => hnever rfl nofun, fun row => hnever rfl nofun,
    fun row => hnever rfl nofun, fun index => hnever rfl nofun, hover, ?_, ?_⟩
  · constructor
    · rintro ⟨i, count, max, herror⟩
      obtain ⟨hcounts, group, hfirst, -⟩ := (hover i count max).1 herror
      exact ⟨hcounts, group, hfirst.mem, hfirst.2.1⟩
    · rintro ⟨hcounts, group, hmem, hlarge⟩
      obtain ⟨i, first, hfirst⟩ := RowGroup.exists_isFirstOverfull hmem hlarge
      exact ⟨i, _, _, (hover _ _ _).2 ⟨hcounts, first, hfirst, rfl, rfl⟩⟩
  · rw [validate_eq_ok_iff, fault?_eq_none_iff hlength,
      RowGroup.firstComponentFault?_eq_none_iff hrows hne]

/-- A view with one button in its first row and six in its last, which come first in its text. -/
def Declaration.crowded : Declaration where
  home := "crate"
  name := "Crowded"
  generics := []
  annotations := [.marker "porbeagle::DiscordView"]
  members := (["a", "b", "c", "d", "e", "f"].map fun name =>
      ⟨name, .plain "porbeagle::Button", [⟨some "porbeagle::attributes::action_row", [.int 7]⟩]⟩)
    ++ [⟨"top", .plain "porbeagle::Button", [⟨some "porbeagle::attributes::action_row", [.int 2]⟩]⟩]
  interfaces := [.plain "porbeagle::MessageView"]

def Declaration.crowdedRows : ClassifiedView where
  stickers := []
  embeds := []
  actionRows := [⟨2, ["top"]⟩, ⟨7, ["a", "b", "c", "d", "e", "f"]⟩]
  ignored := []
  binding := some ⟨none, none⟩

/-- The button of a member; one of them is a select menu. -/
def Component.ofMember (name : String) : Component :=
  if name = "d" then .selectMenu (.single name []) else .button (.interactive name name .primary)

theorem Component.isRow_ofMember (name : String) : (ofMember name).isRow = false := by
  unfold ofMember
  split <;> rfl

def Payload.ofCrowded (content : Option String) : Payload where
  content := content
  embeds := []
  components := Declaration.crowdedRows.actionRows.map fun group =>
    .row (group.members.map Component.ofMember)
  stickers := []

theorem Payload.validate_of_process_crowded :
    Declaration.crowded.process Declaration.fullRegistry Config.standard.rowLimit =
      .ok Declaration.crowdedRows ∧
    (ofCrowded none).validate = .error (.tooManyRowComponents 1 6 5) ∧
    ∀ row, (ofCrowded (some "hello")).validate ≠ .error (.emptyActionRow row) := by
  have h : Declaration.crowded.process Declaration.fullRegistry Config.standard.rowLimit =
      .ok Declaration.crowdedRows := by decide
  have hrows (content : Option String) :
      List.Forall₂ RowGroup.IsFilledBy Declaration.crowdedRows.actionRows
        (ofCrowded content).components :=
    RowGroup.isFilledBy_of_assignment Component.isRow_ofMember _
  obtain ⟨-, -, -, -, hover, -⟩ :=
    validate_of_process (c := .standard) rfl (by decide) h (hrows none)
  have hfirst : RowGroup.IsFirstOverfull Declaration.crowdedRows.actionRows 1
      ⟨7, ["a", "b", "c", "d", "e", "f"]⟩ := by
    refine ⟨rfl, by decide, fun j hj other hother => ?_⟩
    obtain rfl : j = 0 := by omega
    cases hother
    decide
  refine ⟨h, (hover 1 6 5).2 ⟨⟨by decide, by decide, by decide⟩, _, hfirst, rfl, rfl⟩, ?_⟩
  exact (validate_of_process (c := .standard) rfl (by decide) h (hrows (some "hello"))).2.1

end ViewCompanion
