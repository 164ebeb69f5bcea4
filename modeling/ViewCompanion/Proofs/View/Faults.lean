import Mathlib.Data.Finset.Card
import ViewCompanion.Generation
import ViewCompanion.Proofs.View.RowForms
import ViewCompanion.Proofs.View.Sorting

namespace ViewCompanion

section Arguments

variable {args : List Argument} {index : UInt32} {fault : RowIndexFault}

/-- The arguments of a marker name a row by one whole number, the index of the row. -/
def NamesRow (args : List Argument) (index : UInt32) : Prop :=
  ∃ n : Int64, args = [.int n] ∧ n.toInt = index.toNat

/-- What is wrong with arguments that name no row. -/
inductive RowIndexFault.IsOf : List Argument → RowIndexFault → Prop
  | missing : IsOf [] .missing
  | outOfRange {n : Int64} (h : n.toInt < 0 ∨ UInt32.size ≤ n.toInt) :
      IsOf [.int n] (.outOfRange n.toInt)
  | notAnInteger {a : Argument} (h : ∀ n, a ≠ .int n) : IsOf [a] (.notAnInteger a.display)
  | notSingle {args : List Argument} (h : 2 ≤ args.length) : IsOf args (.notSingle args.length)

theorem rowIndex_eq_ok_iff_namesRow : rowIndex args = .ok index ↔ NamesRow args index := by
  constructor
  · intro h
    obtain ⟨n, hargs, hnonneg, hsize, rfl⟩ := eq_int_of_rowIndex h
    have hbound : n.toInt.toNat < UInt32.size := by omega
    refine ⟨n, hargs, ?_⟩
    rw [UInt32.toNat_ofNat_of_lt' hbound, Int.toNat_of_nonneg hnonneg]
  · rintro ⟨n, rfl, hn⟩
    have hbound := index.toNat_lt_size
    rw [rowIndex, hn, if_pos ⟨Int.natCast_nonneg _, by omega⟩, Int.toNat_natCast,
      UInt32.ofNat_toNat]

theorem rowIndex_eq_error_iff : rowIndex args = .error fault ↔ fault.IsOf args := by
  constructor
  · intro h
    unfold rowIndex at h
    split at h
    · cases h
      exact .missing
    · split at h
      · cases h
      · rename_i n hrange
        cases h
        exact .outOfRange (by omega)
    · rename_i other hother
      cases h
      exact .notAnInteger hother
    · rename_i hnil _ hone
      cases h
      rcases args with _ | ⟨a, _ | ⟨b, rest⟩⟩
      · exact absurd rfl hnil
      · exact absurd rfl (hone a)
      · exact .notSingle (by simp)
  · intro h
    cases h with
    | missing => rfl
    | outOfRange hrange => rw [rowIndex, if_neg (by omega)]
    | @notAnInteger a hother =>
      cases a with
      | int n => exact absurd rfl (hother n)
      | _ => rfl
    | notSingle hlength =>
      rcases args with _ | ⟨a, _ | ⟨b, rest⟩⟩
      · cases hlength
      · exact absurd hlength (by simp)
      · simp [rowIndex]

theorem not_exists_namesRow_iff : (¬ ∃ index, NamesRow args index) ↔
    ∃ fault : RowIndexFault, fault.IsOf args := by
  simp only [← rowIndex_eq_ok_iff_namesRow, ← rowIndex_eq_error_iff]
  cases rowIndex args <;> simp

end Arguments

namespace Member

variable {m : Member} {r : Registry} {e : ViewError}

/-- The action-row markers of a member; there are none if nothing defines the marker. -/
def rowMarkers (m : Member) (r : Registry) : List Annotation :=
  match r.actionRowMarker with
  | some marker => m.annotationsOf marker
  | none => []

theorem rowMarkers_eq_nil (h : r.actionRowMarker = none) : m.rowMarkers r = [] := by
  rw [rowMarkers, h]

/-- What is wrong with the row markers of a member. Nothing else about the member matters. -/
inductive RowFault (m : Member) (r : Registry) : ViewError → Prop
  | duplicate (h : 2 ≤ (m.rowMarkers r).length) : RowFault m r (.duplicateActionRow m.name)
  | malformed {a : Annotation} {fault : RowIndexFault} (hone : m.rowMarkers r = [a])
      (hargs : ¬ ∃ index, NamesRow a.args index) (hfault : fault.IsOf a.args) :
      RowFault m r (.malformedActionRow m.name fault)

theorem rowIndexOf_eq_ok_iff {member : String} {args : List Argument} {index : UInt32} :
    rowIndexOf member args = .ok index ↔ NamesRow args index := by
  rw [← rowIndex_eq_ok_iff_namesRow, rowIndexOf]
  cases rowIndex args <;> simp [Except.mapError]

theorem rowIndexOf_eq_error_iff {member : String} {args : List Argument} :
    rowIndexOf member args = .error e ↔
      ∃ fault : RowIndexFault, fault.IsOf args ∧ .malformedActionRow member fault = e := by
  simp only [← rowIndex_eq_error_iff, rowIndexOf]
  cases rowIndex args <;> simp [Except.mapError]

theorem actionRow_eq (m : Member) (r : Registry) : m.actionRow r.actionRowMarker =
    match m.rowMarkers r with
    | [] => .ok none
    | [a] => (rowIndexOf m.name a.args).map some
    | _ => .error (.duplicateActionRow m.name) := by
  unfold actionRow rowMarkers
  cases r.actionRowMarker <;> rfl

theorem actionRow_eq_error_iff :
    m.actionRow r.actionRowMarker = .error e ↔ m.RowFault r e := by
  rw [actionRow_eq]
  -- a single marker fails for its arguments, and several for being several
  constructor
  · intro h
    split at h
    · cases h
    · rename_i a hone
      cases hindex : rowIndexOf m.name a.args with
      | ok index =>
        rw [hindex] at h
        cases h
      | error found =>
        rw [hindex] at h
        cases h
        obtain ⟨fault, hfault, rfl⟩ := rowIndexOf_eq_error_iff.1 hindex
        exact .malformed hone (not_exists_namesRow_iff.2 ⟨fault, hfault⟩) hfault
    · rename_i hnil hone
      cases h
      refine .duplicate ?_
      match hmarkers : m.rowMarkers r with
      | [] => exact absurd hmarkers hnil
      | [a] => exact absurd hmarkers (hone a)
      | a :: b :: rest => simp
  · intro h
    cases h with
    | duplicate hlength =>
      match hmarkers : m.rowMarkers r, hlength with
      | a :: b :: rest, _ => rfl
    | malformed hone _ hfault =>
      rw [hone]
      dsimp only
      rw [rowIndexOf_eq_error_iff.2 ⟨_, hfault, rfl⟩]
      rfl

theorem markers_eq_error_iff : m.markers r = .error e ↔ m.RowFault r e := by
  rw [← actionRow_eq_error_iff, markers]
  cases m.actionRow r.actionRowMarker <;> simp [Except.map]

theorem exists_markers_iff : (∃ markers, m.markers r = .ok markers) ↔ ∀ e, ¬ m.RowFault r e := by
  simp only [← markers_eq_error_iff]
  cases m.markers r <;> simp

/-- A stronger rule than that of rows claims the member, as a sticker or as an embed. -/
def IsClaimed (m : Member) (r : Registry) : Prop :=
  (m.hasType r.snowflake = true ∧
    ∃ marker, r.stickerMarker = some marker ∧ m.annotationsOf marker ≠ []) ∨
  m.hasType r.embed = true

theorem actionRow_eq_some_iff {index : UInt32} : m.actionRow r.actionRowMarker = .ok (some index) ↔
    ∃ a, m.rowMarkers r = [a] ∧ NamesRow a.args index := by
  rw [actionRow_eq]
  constructor
  · intro h
    split at h
    · cases h
    · rename_i a hone
      cases hindex : rowIndexOf m.name a.args with
      | ok found =>
        rw [hindex] at h
        cases h
        exact ⟨a, hone, rowIndexOf_eq_ok_iff.1 hindex⟩
      | error fault =>
        rw [hindex] at h
        cases h
    · cases h
  · rintro ⟨a, hone, hargs⟩
    rw [hone]
    dsimp only
    rw [rowIndexOf_eq_ok_iff.2 hargs]
    rfl

theorem ofMarkers_eq_actionRow_iff {markers : Markers} {index : UInt32} :
    Category.ofMarkers markers = .actionRow index ↔
      ¬ ((markers.isSnowflake = true ∧ markers.sticker = true) ∨ markers.isEmbed = true) ∧
        markers.actionRow = some index := by
  unfold Category.ofMarkers
  cases markers.isSnowflake <;> cases markers.sticker <;> cases markers.isEmbed <;>
    cases markers.actionRow <;> simp

/-- A member asks for a row by a single marker that names it, unless a stronger rule claims it. -/
theorem category?_eq_actionRow_iff {index : UInt32} : m.category? r = some (.actionRow index) ↔
    ¬ m.IsClaimed r ∧ ∃ a, m.rowMarkers r = [a] ∧ NamesRow a.args index := by
  have hsticker : (match r.stickerMarker with
      | some marker => !(m.annotationsOf marker).isEmpty
      | none => false) = true ↔
        ∃ marker, r.stickerMarker = some marker ∧ m.annotationsOf marker ≠ [] := by
    cases r.stickerMarker <;> simp
  rw [← actionRow_eq_some_iff, category?, markers, IsClaimed, ← hsticker]
  cases m.actionRow r.actionRowMarker with
  | error fault => simp [Except.map, Except.toOption]
  | ok row =>
    simp only [Except.map, Except.toOption, Option.map_some, Option.some.injEq, Except.ok.injEq]
    exact ofMarkers_eq_actionRow_iff

end Member

section Members

variable {r : Registry} {members : List Member} {e : ViewError}

theorem mapM_eq_error_iff {ε α β : Type} {f : α → Except ε β} {xs : List α} {e : ε} :
    xs.mapM f = .error e ↔ ∃ before x after, xs = before ++ x :: after ∧
      (∀ y ∈ before, ∃ b, f y = .ok b) ∧ f x = .error e := by
  induction xs with
  | nil => simp [pure, Except.pure]
  | cons first rest ih =>
    rw [List.mapM_cons]
    cases hfirst : f first with
    | error found =>
      -- nothing can stand before a first element that fails
      constructor
      · intro h
        cases h
        exact ⟨[], first, rest, rfl, List.forall_mem_nil _, hfirst⟩
      · rintro ⟨before, x, after, heq, hbefore, hx⟩
        cases before with
        | nil =>
          obtain ⟨rfl, -⟩ := List.cons.inj heq
          rw [hfirst] at hx
          exact congrArg Except.error (Except.error.inj hx)
        | cons y before =>
          obtain ⟨rfl, -⟩ := List.cons.inj heq
          obtain ⟨b, hb⟩ := hbefore first List.mem_cons_self
          rw [hfirst] at hb
          cases hb
    | ok b =>
      have hrest : (do let y ← Except.ok b; let ys ← rest.mapM f; pure (y :: ys)) = .error e ↔
          rest.mapM f = .error e := by
        cases rest.mapM f <;> simp [Bind.bind, Except.bind, pure, Except.pure]
      rw [hrest, ih]
      constructor
      · rintro ⟨before, x, after, rfl, hbefore, hx⟩
        exact ⟨first :: before, x, after, rfl, List.forall_mem_cons.2 ⟨⟨b, hfirst⟩, hbefore⟩, hx⟩
      · rintro ⟨before, x, after, heq, hbefore, hx⟩
        cases before with
        | nil =>
          obtain ⟨rfl, -⟩ := List.cons.inj heq
          rw [hfirst] at hx
          cases hx
        | cons y before =>
          obtain ⟨rfl, rfl⟩ := List.cons.inj heq
          exact ⟨before, x, after, rfl, (List.forall_mem_cons.1 hbefore).2, hx⟩

/-- `e` is the fault of the first member that has one in its row markers. -/
def FirstRowFault (r : Registry) (members : List Member) (e : ViewError) : Prop :=
  ∃ before m after, members = before ++ m :: after ∧ (∀ x ∈ before, ∀ f, ¬ x.RowFault r f) ∧
    m.RowFault r e

theorem label_eq_error_iff {m : Member} : m.label r = .error e ↔ m.RowFault r e := by
  rw [← Member.markers_eq_error_iff, Member.label]
  cases m.markers r <;> simp [Except.map]

theorem labels_eq_error_iff :
    (members.mapM fun (m : Member) => m.label r) = .error e ↔ FirstRowFault r members e := by
  have hok (m : Member) : (∃ l, m.label r = .ok l) ↔ ∀ f, ¬ m.RowFault r f := by
    simp only [← label_eq_error_iff]
    cases m.label r <;> simp
  simp only [mapM_eq_error_iff, hok, label_eq_error_iff, FirstRowFault]

end Members

namespace Category

def row? : Category → Option UInt32
  | actionRow index => some index
  | _ => none

end Category

namespace RowGroup

variable {groups : List RowGroup} {index : UInt32}

theorem nodup_index (hasc : Ascending groups) : (groups.map RowGroup.index).Nodup := by
  rw [List.Nodup, List.pairwise_map]
  exact hasc.imp UInt32.ne_of_lt

theorem exists_index_iff (index : UInt32) (hasc : Ascending groups)
    (hne : ∀ group ∈ groups, group.members ≠ []) :
    (∃ group ∈ groups, group.index = index) ↔ rowAt index groups ≠ [] := by
  refine ⟨?_, exists_of_rowAt_ne_nil⟩
  rintro ⟨group, hgroup, rfl⟩
  rw [rowAt_index hasc hgroup]
  exact hne group hgroup

theorem checkLimit_eq_error_iff {limit : Option Nat} {e : ViewError} :
    checkLimit groups limit = .error e ↔
      ∃ max, limit = some max ∧ max < groups.length ∧ e = .tooManyActionRows groups.length max := by
  refine ⟨eq_tooManyActionRows_of_checkLimit, ?_⟩
  rintro ⟨max, rfl, hmax, rfl⟩
  rw [checkLimit, if_pos hmax]

end RowGroup

namespace Declaration

variable {d : Declaration} {r : Registry} {limit : Option Nat} {labelled : List Labelled}
  {e : ViewError}

/-- The indices of the rows that the members of a view are sorted into. -/
def rows (d : Declaration) (r : Registry) : Finset UInt32 :=
  (d.members.filterMap fun m => (m.category? r).bind Category.row?).toFinset

theorem mem_rows {index : UInt32} :
    index ∈ d.rows r ↔ ∃ m ∈ d.members, m.category? r = some (.actionRow index) := by
  have hrow (category : Category) : category.row? = some index ↔ category = .actionRow index := by
    cases category <;> simp [Category.row?]
  simp only [rows, List.mem_toFinset, List.mem_filterMap, Option.bind_eq_some_iff, hrow]
  simp

/-- What a view fails for: that it is generic; else the first fault in the row markers of its
members; else that it has more rows than a limit allows. -/
inductive Fault (d : Declaration) (r : Registry) (limit : Option Nat) : ViewError → Prop
  | generic (h : d.generics ≠ []) : Fault d r limit (.genericDeclaration d.generics)
  | marker {e : ViewError} (h : d.generics = []) (hfirst : FirstRowFault r d.members e) :
      Fault d r limit e
  | rows {max : Nat} (h : d.generics = []) (hmarkers : ∀ m ∈ d.members, ∀ e, ¬ m.RowFault r e)
      (hlimit : limit = some max) (hover : max < (d.rows r).card) :
      Fault d r limit (.tooManyActionRows (d.rows r).card max)

theorem length_actionRows (binding : Option Binding)
    (h : List.Forall₂ (Member.HasLabel r) d.members labelled) :
    (ClassifiedView.ofLabelled labelled binding).actionRows.length = (d.rows r).card := by
  have hrows : ((ClassifiedView.ofLabelled labelled binding).actionRows.map
      RowGroup.index).toFinset = d.rows r := by
    ext index
    have hsome := RowGroup.exists_index_iff index
      (RowGroup.ascending_ofSlots (labelled.filterMap ClassifiedView.rowSlot?))
      (RowGroup.members_ne_nil_ofSlots _)
    have hrow := ClassifiedView.rowAt_ofLabelled labelled binding index
    rw [← namesOf_of_labels h] at hrow
    rw [List.mem_toFinset, List.mem_map, mem_rows]
    refine hsome.trans ?_
    change RowGroup.rowAt index (ClassifiedView.ofLabelled labelled binding).actionRows ≠ [] ↔ _
    rw [hrow]
    simp [namesOf]
  rw [← hrows, List.toFinset_card_of_nodup, List.length_map]
  exact RowGroup.nodup_index (RowGroup.ascending_ofSlots _)

/-- Without bad markers a view that is not generic is sorted, and then only its rows are counted. -/
theorem process_eq_of_labels (hgenerics : d.generics = [])
    (h : (d.members.mapM fun (m : Member) => m.label r) = .ok labelled) :
    d.process r limit =
      (RowGroup.checkLimit (ClassifiedView.ofLabelled labelled (d.binding? r)).actionRows
        limit).map fun _ => .ofLabelled labelled (d.binding? r) := by
  unfold process classify
  rw [hgenerics, h]
  rfl

theorem process_eq_of_not_labels (hgenerics : d.generics = [])
    (h : (d.members.mapM fun (m : Member) => m.label r) = .error e) :
    d.process r limit = .error e := by
  unfold process classify
  rw [hgenerics, h]
  rfl

theorem process_eq_of_generics (hgenerics : d.generics ≠ []) :
    d.process r limit = .error (.genericDeclaration d.generics) := by
  unfold process
  rw [if_neg (by simpa using hgenerics)]

theorem noRowFault_of_labels (h : List.Forall₂ (Member.HasLabel r) d.members labelled) :
    ∀ m ∈ d.members, ∀ e, ¬ m.RowFault r e := by
  intro m hm
  obtain ⟨l, -, hlabel⟩ := label_of_mem h hm
  obtain ⟨markers, hmarkers, -⟩ := markers_of_hasLabel hlabel
  exact Member.exists_markers_iff.1 ⟨markers, hmarkers⟩

theorem process_eq_error_iff : d.process r limit = .error e ↔ d.Fault r limit e := by
  by_cases hgenerics : d.generics = []
  · -- the members are labelled in order, and the limit only counts if that succeeds for all of them
    cases hmap : d.members.mapM fun (m : Member) => m.label r with
    | error found =>
      rw [process_eq_of_not_labels hgenerics hmap]
      have hfirst := labels_eq_error_iff.1 hmap
      constructor
      · intro h
        cases h
        exact .marker hgenerics hfirst
      · intro h
        cases h with
        | generic hne => exact absurd hgenerics hne
        | marker _ hother =>
          rw [labels_eq_error_iff.2 hother] at hmap
          cases hmap
          rfl
        | rows _ hmarkers =>
          obtain ⟨before, m, after, hmembers, -, hfault⟩ := hfirst
          exact absurd hfault (hmarkers m (by simp [hmembers]) found)
    | ok labelled =>
      have hlabels := labels_of_mapM hmap
      have hlength := length_actionRows (d.binding? r) hlabels
      have hlimit : d.process r limit = .error e ↔ ∃ max, limit = some max ∧
          max < (d.rows r).card ∧ e = .tooManyActionRows (d.rows r).card max := by
        rw [process_eq_of_labels hgenerics hmap, ← hlength, ← RowGroup.checkLimit_eq_error_iff]
        cases RowGroup.checkLimit _ limit <;> simp [Except.map]
      rw [hlimit]
      constructor
      · rintro ⟨max, hmax, hover, rfl⟩
        exact .rows hgenerics (noRowFault_of_labels hlabels) hmax hover
      · intro h
        cases h with
        | generic hne => exact absurd hgenerics hne
        | marker _ hfirst =>
          rw [labels_eq_error_iff.2 hfirst] at hmap
          cases hmap
        | rows _ _ hmax hover => exact ⟨_, hmax, hover, rfl⟩
  · rw [process_eq_of_generics hgenerics]
    constructor
    · intro h
      cases h
      exact .generic hgenerics
    · intro h
      cases h with
      | generic => rfl
      | marker hnone => exact absurd hnone hgenerics
      | rows hnone => exact absurd hnone hgenerics

/-- A view fails for its faults and for nothing else. It is the members left to the rule of rows
that are counted against the limit, and without the marker of rows only a generic view fails. -/
theorem process_fails_exactly (d : Declaration) (r : Registry) (c : Config) :
    (∀ e, d.process r c.rowLimit = .error e ↔ d.Fault r c.rowLimit e) ∧
    ((∃ v, d.process r c.rowLimit = .ok v) ↔ ∀ e, ¬ d.Fault r c.rowLimit e) ∧
    (∀ index, index ∈ d.rows r ↔ ∃ m ∈ d.members,
      ¬ m.IsClaimed r ∧ ∃ a, m.rowMarkers r = [a] ∧ NamesRow a.args index) ∧
    (r.actionRowMarker = none → ∀ e, d.process r c.rowLimit = .error e →
      e = .genericDeclaration d.generics) := by
  have hfault (e : ViewError) : d.process r c.rowLimit = .error e ↔ d.Fault r c.rowLimit e :=
    process_eq_error_iff
  refine ⟨hfault, ?_, ?_, ?_⟩
  · simp only [← hfault]
    cases d.process r c.rowLimit <;> simp
  · intro index
    simp only [mem_rows, Member.category?_eq_actionRow_iff]
  · intro hmarker e h
    have hnone (m : Member) (e : ViewError) : ¬ m.RowFault r e := by
      intro hm
      cases hm with
      | duplicate hlength => simp [Member.rowMarkers_eq_nil hmarker] at hlength
      | malformed hone => simp [Member.rowMarkers_eq_nil hmarker] at hone
    have hrows : d.rows r = ∅ := by
      refine Finset.eq_empty_of_forall_notMem fun index hindex => ?_
      obtain ⟨m, -, hcategory⟩ := mem_rows.1 hindex
      obtain ⟨-, a, hone, -⟩ := Member.category?_eq_actionRow_iff.1 hcategory
      simp [Member.rowMarkers_eq_nil hmarker] at hone
    cases (hfault e).1 h with
    | generic => rfl
    | marker _ hfirst =>
      obtain ⟨_, m, _, -, -, hm⟩ := hfirst
      exact absurd hm (hnone m e)
    | rows _ _ _ hover => simp [hrows] at hover

/-- A view whose first bad markers are on a member that would have been a sticker. -/
def shadowed : Declaration where
  home := "crate"
  name := "Shadowed"
  generics := []
  annotations := [.marker "porbeagle::DiscordView"]
  members := [
    ⟨"accept", .plain "porbeagle::Button", [⟨some "porbeagle::attributes::action_row", [.int 4]⟩]⟩,
    ⟨"wave", .plain "porbeagle::Snowflake", [.marker "porbeagle::attributes::sticker",
      ⟨some "porbeagle::attributes::action_row", [.int (-1)]⟩]⟩,
    ⟨"decline", .plain "porbeagle::Button", [⟨some "porbeagle::attributes::action_row", [.int 0]⟩,
      ⟨some "porbeagle::attributes::action_row", [.int 1]⟩]⟩]
  interfaces := [.plain "porbeagle::MessageView"]

theorem process_fails_exactly_shadowed :
    shadowed.Fault fullRegistry Config.standard.rowLimit
      (.malformedActionRow "wave" (.outOfRange (-1))) ∧
    (¬ ∃ v, shadowed.process fullRegistry Config.standard.rowLimit = .ok v) ∧
    shadowed.rows fullRegistry = {4} ∧
    ¬ ∃ member, shadowed.process { fullRegistry with actionRowMarker := none }
      Config.standard.rowLimit = .error (.duplicateActionRow member) := by
  have h : shadowed.process fullRegistry Config.standard.rowLimit =
      .error (.malformedActionRow "wave" (.outOfRange (-1))) := by decide
  obtain ⟨hfault, hsuccess, -, -⟩ := process_fails_exactly shadowed fullRegistry .standard
  obtain ⟨-, -, -, hunmarked⟩ :=
    process_fails_exactly shadowed { fullRegistry with actionRowMarker := none } .standard
  refine ⟨(hfault _).1 h, fun hok => hsuccess.1 hok _ ((hfault _).1 h), by decide, ?_⟩
  rintro ⟨member, hduplicate⟩
  cases hunmarked rfl _ hduplicate

end Declaration

end ViewCompanion
