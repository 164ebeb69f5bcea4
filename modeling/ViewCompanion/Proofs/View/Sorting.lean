import Mathlib.Data.List.Nodup
import Mathlib.Tactic.ByContra
import ViewCompanion.View.Classified

namespace ViewCompanion

namespace RowGroup

def Ascending (groups : List RowGroup) : Prop :=
  groups.Pairwise fun a b => a.index < b.index

/-- The members of row `index`; none when there is no such row. -/
def rowAt (index : UInt32) : List RowGroup → List String
  | [] => []
  | group :: rest => if group.index = index then group.members else rowAt index rest

theorem rowAt_eq_nil {groups : List RowGroup} {index : UInt32}
    (h : ∀ group ∈ groups, group.index ≠ index) : rowAt index groups = [] := by
  induction groups with
  | nil => rfl
  | cons group rest ih =>
    rw [rowAt, if_neg (h group List.mem_cons_self)]
    exact ih fun g hg => h g (List.mem_cons_of_mem _ hg)

theorem rowAt_index {groups : List RowGroup} (hasc : Ascending groups) {group : RowGroup}
    (hmem : group ∈ groups) : rowAt group.index groups = group.members := by
  induction groups with
  | nil => cases hmem
  | cons first rest ih =>
    obtain ⟨hfirst, hrest⟩ := List.pairwise_cons.1 hasc
    rcases List.mem_cons.1 hmem with rfl | hmem
    · rw [rowAt, if_pos rfl]
    · have hne : first.index ≠ group.index := UInt32.ne_of_lt (hfirst group hmem)
      rw [rowAt, if_neg hne]
      exact ih hrest hmem

theorem exists_of_rowAt_ne_nil {groups : List RowGroup} {index : UInt32}
    (h : rowAt index groups ≠ []) : ∃ group ∈ groups, group.index = index := by
  by_contra hnone
  exact h (rowAt_eq_nil fun group hmem heq => hnone ⟨group, hmem, heq⟩)

theorem mem_insert_index {slot : RowSlot} {groups : List RowGroup} {group : RowGroup}
    (h : group ∈ insert slot groups) :
    group.index = slot.index ∨ ∃ old ∈ groups, old.index = group.index := by
  induction groups with
  | nil =>
    rw [insert, List.mem_singleton] at h
    exact .inl (h ▸ rfl)
  | cons first rest ih =>
    rw [insert] at h
    split at h
    · rcases List.mem_cons.1 h with rfl | h
      · exact .inl rfl
      · exact .inr ⟨group, h, rfl⟩
    · split at h
      · rcases List.mem_cons.1 h with rfl | h
        · exact .inr ⟨first, List.mem_cons_self, rfl⟩
        · exact .inr ⟨group, List.mem_cons_of_mem _ h, rfl⟩
      · rcases List.mem_cons.1 h with rfl | h
        · exact .inr ⟨group, List.mem_cons_self, rfl⟩
        · rcases ih h with h | ⟨old, hold, heq⟩
          · exact .inl h
          · exact .inr ⟨old, List.mem_cons_of_mem _ hold, heq⟩

theorem ascending_insert (slot : RowSlot) {groups : List RowGroup} (hasc : Ascending groups) :
    Ascending (insert slot groups) := by
  induction groups with
  | nil => exact List.pairwise_singleton _ _
  | cons first rest ih =>
    obtain ⟨hfirst, hrest⟩ := List.pairwise_cons.1 hasc
    rw [insert]
    split
    · rename_i hlt
      refine List.pairwise_cons.2 ⟨fun group hmem => ?_, hasc⟩
      rcases List.mem_cons.1 hmem with rfl | hmem
      · exact hlt
      · exact UInt32.lt_trans hlt (hfirst group hmem)
    · split
      · exact List.pairwise_cons.2 ⟨hfirst, hrest⟩
      · rename_i hlt hne
        refine List.pairwise_cons.2 ⟨fun group hmem => ?_, ih hrest⟩
        rcases mem_insert_index hmem with heq | ⟨old, hold, heq⟩
        · rw [heq]
          exact UInt32.lt_of_le_of_ne (UInt32.not_lt.1 hlt) (Ne.symm hne)
        · exact heq ▸ hfirst old hold

theorem rowAt_insert (slot : RowSlot) {groups : List RowGroup} (hasc : Ascending groups)
    (index : UInt32) : rowAt index (insert slot groups) =
      if slot.index = index then slot.member :: rowAt index groups else rowAt index groups := by
  induction groups with
  | nil => rfl
  | cons first rest ih =>
    obtain ⟨hfirst, hrest⟩ := List.pairwise_cons.1 hasc
    rw [insert]
    split
    · rename_i hlt
      -- a new row in front: nothing behind it can have its index
      have hnone : slot.index = index → rowAt index (first :: rest) = [] := by
        rintro rfl
        refine rowAt_eq_nil fun group hmem => ?_
        rcases List.mem_cons.1 hmem with rfl | hmem
        · exact (UInt32.ne_of_lt hlt).symm
        · exact (UInt32.ne_of_lt (UInt32.lt_trans hlt (hfirst group hmem))).symm
      by_cases heq : slot.index = index
      · rw [if_pos heq, rowAt, if_pos heq, hnone heq]
      · rw [if_neg heq, rowAt, if_neg heq]
    · split
      · rename_i hlt hsame
        by_cases heq : first.index = index
        · simp only [rowAt, heq, hsame, if_true]
        · simp only [rowAt, heq, hsame, if_false]
      · rename_i hlt hne
        by_cases heq : first.index = index
        · have hslot : slot.index ≠ index := fun h => hne (h.trans heq.symm)
          simp only [rowAt, heq, hslot, if_true, if_false]
        · simp only [rowAt, heq, if_false, ih hrest]

theorem members_ne_nil_insert (slot : RowSlot) {groups : List RowGroup}
    (h : ∀ group ∈ groups, group.members ≠ []) :
    ∀ group ∈ insert slot groups, group.members ≠ [] := by
  induction groups with
  | nil => simp [insert]
  | cons first rest ih =>
    have ih := ih fun group hmem => h group (List.mem_cons_of_mem _ hmem)
    rw [insert]
    split
    · exact List.forall_mem_cons.2 ⟨List.cons_ne_nil _ _, h⟩
    · split
      · exact List.forall_mem_cons.2
          ⟨List.cons_ne_nil _ _, fun group hmem => h group (List.mem_cons_of_mem _ hmem)⟩
      · exact List.forall_mem_cons.2 ⟨h first List.mem_cons_self, ih⟩

theorem flatMap_insert_perm (slot : RowSlot) (groups : List RowGroup) :
    ((insert slot groups).flatMap members).Perm (slot.member :: groups.flatMap members) := by
  induction groups with
  | nil => exact .refl _
  | cons first rest ih =>
    rw [insert]
    split
    · exact .refl _
    · split
      · exact .refl _
      · simp only [List.flatMap_cons]
        exact (ih.append_left first.members).trans List.perm_middle

theorem ascending_ofSlots (slots : List RowSlot) : Ascending (ofSlots slots) := by
  induction slots with
  | nil => exact .nil
  | cons slot rest ih => exact ascending_insert slot ih

theorem rowAt_ofSlots (slots : List RowSlot) (index : UInt32) :
    rowAt index (ofSlots slots) =
      (slots.filter fun slot => slot.index = index).map RowSlot.member := by
  induction slots with
  | nil => rfl
  | cons slot rest ih =>
    change rowAt index (insert slot (ofSlots rest)) = _
    rw [rowAt_insert slot (ascending_ofSlots rest), ih]
    by_cases h : slot.index = index <;> simp [h]

theorem members_ne_nil_ofSlots (slots : List RowSlot) :
    ∀ group ∈ ofSlots slots, group.members ≠ [] := by
  induction slots with
  | nil => exact fun _ h => nomatch h
  | cons slot rest ih => exact members_ne_nil_insert slot ih

theorem flatMap_ofSlots_perm (slots : List RowSlot) :
    ((ofSlots slots).flatMap members).Perm (slots.map RowSlot.member) := by
  induction slots with
  | nil => exact .refl _
  | cons slot rest ih => exact (flatMap_insert_perm slot (ofSlots rest)).trans (ih.cons _)

end RowGroup

namespace ClassifiedView

theorem count_namesIn_cons (name : String) (category : Category) (m : Labelled)
    (rest : List Labelled) : (namesIn category (m :: rest)).count name =
      (if m.2 = category ∧ m.1 = name then 1 else 0) + (namesIn category rest).count name := by
  by_cases hc : m.2 = category
  · by_cases hn : m.1 = name <;> simp [namesIn, hc, hn, Nat.add_comm]
  · simp [namesIn, hc]

theorem count_categories (name : String) (members : List Labelled) :
    (namesIn .sticker members).count name + (namesIn .embed members).count name
      + ((members.filterMap rowSlot?).map RowSlot.member).count name
      + (namesIn .ignored members).count name = (members.map Prod.fst).count name := by
  induction members with
  | nil => rfl
  | cons m rest ih =>
    obtain ⟨member, category⟩ := m
    by_cases hn : member = name <;> cases category <;>
      simp [count_namesIn_cons, List.filterMap_cons, rowSlot?, hn] <;> omega

/-- The four lists hold the members, each as often as it is declared. -/
theorem ofLabelled_perm (members : List Labelled) (binding : Option Binding) :
    ((ofLabelled members binding).stickers ++ (ofLabelled members binding).embeds
      ++ (ofLabelled members binding).actionRows.flatMap RowGroup.members
      ++ (ofLabelled members binding).ignored).Perm (members.map Prod.fst) := by
  have hrows := RowGroup.flatMap_ofSlots_perm (members.filterMap rowSlot?)
  refine List.perm_iff_count.2 fun name => ?_
  simp only [ofLabelled, List.count_append, hrows.count_eq]
  exact count_categories name members

theorem rowAt_ofLabelled (members : List Labelled) (binding : Option Binding) (index : UInt32) :
    RowGroup.rowAt index (ofLabelled members binding).actionRows =
      namesIn (.actionRow index) members := by
  rw [ofLabelled, RowGroup.rowAt_ofSlots]
  induction members with
  | nil => rfl
  | cons m rest ih =>
    obtain ⟨member, category⟩ := m
    cases category with
    | actionRow i => by_cases h : i = index <;> simp_all [rowSlot?, namesIn]
    | _ => simpa [List.filterMap_cons, rowSlot?, namesIn] using ih

theorem members_of_mem_actionRows {members : List Labelled} {binding : Option Binding}
    {group : RowGroup} (h : group ∈ (ofLabelled members binding).actionRows) :
    group.members = namesIn (.actionRow group.index) members := by
  rw [← rowAt_ofLabelled members binding]
  exact (RowGroup.rowAt_index (RowGroup.ascending_ofSlots _) h).symm

theorem mem_namesIn {name : String} {category : Category} {members : List Labelled} :
    name ∈ namesIn category members ↔ (name, category) ∈ members := by
  simp only [namesIn, List.mem_map, List.mem_filter, beq_iff_eq]
  constructor
  · rintro ⟨m, ⟨hm, rfl⟩, rfl⟩
    exact hm
  · exact fun h => ⟨(name, category), ⟨h, rfl⟩, rfl⟩

/-- Look-up answers a category only from a member of that name. -/
theorem mem_of_categoryOf? {members : List Labelled} {binding : Option Binding} {name : String}
    {category : Category} (h : (ofLabelled members binding).categoryOf? name = some category) :
    (name, category) ∈ members := by
  unfold categoryOf? at h
  split at h
  · rename_i hmem
    obtain rfl := Option.some.inj h
    exact mem_namesIn.1 (List.contains_iff_mem.1 hmem)
  · split at h
    · rename_i hmem
      obtain rfl := Option.some.inj h
      exact mem_namesIn.1 (List.contains_iff_mem.1 hmem)
    · split at h
      · rename_i group hfind
        obtain rfl := Option.some.inj h
        have hcontains : group.members.contains name = true := by
          simpa using List.find?_some hfind
        have hname := List.contains_iff_mem.1 hcontains
        rw [members_of_mem_actionRows (List.mem_of_find?_eq_some hfind)] at hname
        exact mem_namesIn.1 hname
      · split at h
        · rename_i hmem
          obtain rfl := Option.some.inj h
          exact mem_namesIn.1 (List.contains_iff_mem.1 hmem)
        · cases h

theorem categoryOf?_ne_none {members : List Labelled} {binding : Option Binding} {name : String}
    (h : name ∈ members.map Prod.fst) : (ofLabelled members binding).categoryOf? name ≠ none := by
  have hmem := (ofLabelled_perm members binding).mem_iff.2 h
  simp only [List.mem_append, List.mem_flatMap] at hmem
  intro hnone
  unfold categoryOf? at hnone
  split at hnone
  · cases hnone
  rename_i hsticker
  split at hnone
  · cases hnone
  rename_i hembed
  split at hnone
  · cases hnone
  rename_i hrow
  rw [List.find?_eq_none] at hrow
  rcases hmem with ((hmem | hmem) | ⟨group, hgroup, hmem⟩) | hmem
  · exact hsticker (List.contains_iff_mem.2 hmem)
  · exact hembed (List.contains_iff_mem.2 hmem)
  · exact hrow group hgroup (List.contains_iff_mem.2 hmem)
  · rw [if_pos (List.contains_iff_mem.2 hmem)] at hnone
    cases hnone

theorem categoryOf?_eq_none {members : List Labelled} {binding : Option Binding} {name : String}
    (h : name ∉ members.map Prod.fst) : (ofLabelled members binding).categoryOf? name = none := by
  rw [Option.eq_none_iff_forall_ne_some]
  intro category hsome
  exact h (List.mem_map_of_mem (f := Prod.fst) (mem_of_categoryOf? hsome))

/-- With distinct names there is one category to find. -/
theorem categoryOf?_eq_some {members : List Labelled} {binding : Option Binding} {name : String}
    {category : Category} (hnodup : (members.map Prod.fst).Nodup)
    (h : (name, category) ∈ members) :
    (ofLabelled members binding).categoryOf? name = some category := by
  have hne : (ofLabelled members binding).categoryOf? name ≠ none :=
    categoryOf?_ne_none (List.mem_map_of_mem (f := Prod.fst) h)
  obtain ⟨found, hfound⟩ := Option.ne_none_iff_exists'.1 hne
  have hmem := mem_of_categoryOf? hfound
  have heq := List.inj_on_of_nodup_map hnodup hmem h rfl
  rw [hfound, (Prod.mk.inj heq).2]

end ClassifiedView

namespace Member

/-- The category that the markers of a member give it; none for a member with bad markers. -/
def category? (m : Member) (r : Registry) : Option Category :=
  (m.markers r).toOption.map Category.ofMarkers

def HasLabel (r : Registry) (m : Member) (l : Labelled) : Prop :=
  m.name = l.1 ∧ m.category? r = some l.2

theorem hasLabel_of_label {m : Member} {r : Registry} {l : Labelled} (h : m.label r = .ok l) :
    m.HasLabel r l := by
  unfold label at h
  cases hm : m.markers r with
  | error e =>
    rw [hm] at h
    cases h
  | ok markers =>
    rw [hm] at h
    cases h
    exact ⟨rfl, by rw [category?, hm]; rfl⟩

end Member

namespace Declaration

def namesOf (d : Declaration) (r : Registry) (category : Category) : List String :=
  (d.members.filter fun m => m.category? r = some category).map Member.name

theorem labels_of_mapM {r : Registry} {members : List Member} {labelled : List Labelled}
    (h : (members.mapM fun (m : Member) => m.label r) = .ok labelled) :
    List.Forall₂ (Member.HasLabel r) members labelled := by
  induction members generalizing labelled with
  | nil =>
    cases h
    exact .nil
  | cons m rest ih =>
    rw [List.mapM_cons] at h
    cases hm : m.label r with
    | error e =>
      rw [hm] at h
      cases h
    | ok first =>
      cases hrest : rest.mapM fun (m : Member) => m.label r with
      | error e =>
        rw [hm, hrest] at h
        cases h
      | ok others =>
        rw [hm, hrest] at h
        cases h
        exact .cons (Member.hasLabel_of_label hm) (ih hrest)

section Labels

variable {r : Registry} {d : Declaration} {labelled : List Labelled}

theorem names_of_labels {members : List Member}
    (h : List.Forall₂ (Member.HasLabel r) members labelled) :
    members.map Member.name = labelled.map Prod.fst := by
  induction h with
  | nil => rfl
  | cons hm _ ih => rw [List.map_cons, List.map_cons, hm.1, ih]

theorem namesOf_of_labels (h : List.Forall₂ (Member.HasLabel r) d.members labelled)
    (category : Category) : d.namesOf r category = ClassifiedView.namesIn category labelled := by
  unfold namesOf
  generalize d.members = members at h
  induction h with
  | nil => rfl
  | @cons m l _ _ hm _ ih =>
    obtain ⟨hname, hcategory⟩ := hm
    by_cases heq : l.2 = category
    · simp_all [ClassifiedView.namesIn]
    · simpa [ClassifiedView.namesIn, hcategory, heq] using ih

theorem label_of_mem {members : List Member}
    (h : List.Forall₂ (Member.HasLabel r) members labelled) {m : Member} (hmem : m ∈ members) :
    ∃ l ∈ labelled, m.HasLabel r l := by
  induction h with
  | nil => cases hmem
  | @cons first l _ _ hfirst _ ih =>
    rcases List.mem_cons.1 hmem with rfl | hmem
    · exact ⟨l, List.mem_cons_self, hfirst⟩
    · obtain ⟨found, hfound, hlabel⟩ := ih hmem
      exact ⟨found, List.mem_cons_of_mem _ hfound, hlabel⟩

theorem markers_of_hasLabel {m : Member} {l : Labelled} (h : m.HasLabel r l) :
    ∃ markers, m.markers r = .ok markers ∧ Category.ofMarkers markers = l.2 := by
  have hcategory := h.2
  unfold Member.category? at hcategory
  cases hm : m.markers r with
  | error e =>
    rw [hm] at hcategory
    cases hcategory
  | ok markers =>
    rw [hm] at hcategory
    exact ⟨markers, rfl, Option.some.inj hcategory⟩

end Labels

/-- What is generated is not generic, and has its members sorted into no more rows than allowed. -/
theorem exists_labelled_of_process {d : Declaration} {r : Registry} {limit : Option Nat}
    {v : ClassifiedView} (h : d.process r limit = .ok v) : d.generics = [] ∧ ∃ labelled,
      (d.members.mapM fun (m : Member) => m.label r) = .ok labelled ∧
      v = .ofLabelled labelled (d.binding? r) ∧ RowGroup.checkLimit v.actionRows limit = .ok () := by
  unfold process at h
  split at h
  · rename_i hgenerics
    refine ⟨List.isEmpty_iff.1 hgenerics, ?_⟩
    unfold classify at h
    cases hmap : d.members.mapM fun (m : Member) => m.label r with
    | error e =>
      rw [hmap] at h
      cases h
    | ok labelled =>
      rw [hmap] at h
      cases hlimit : RowGroup.checkLimit
          (ClassifiedView.ofLabelled labelled (d.binding? r)).actionRows limit with
      | error e =>
        simp [Except.map, Bind.bind, Except.bind, hlimit] at h
      | ok done =>
        simp only [Except.map, Bind.bind, Except.bind, hlimit] at h
        cases h
        exact ⟨labelled, rfl, rfl, hlimit⟩
  · cases h

/-- A successful sorting loses no member and doubles none, keeps the order of the declaration in
every list and row, and can be asked for the category of each member. -/
theorem classify_sorts_members {d : Declaration} {r : Registry} {binding : Option Binding}
    {v : ClassifiedView} (h : d.classify r binding = .ok v) :
    (v.stickers ++ v.embeds ++ v.actionRows.flatMap RowGroup.members ++ v.ignored).Perm
      (d.members.map Member.name) ∧
    (v.stickers = d.namesOf r .sticker ∧ v.embeds = d.namesOf r .embed ∧
      v.ignored = d.namesOf r .ignored) ∧
    (v.actionRows.Pairwise (fun a b => a.index < b.index) ∧
      (∀ group ∈ v.actionRows, group.members ≠ [] ∧
        group.members = d.namesOf r (.actionRow group.index)) ∧
      ∀ index, d.namesOf r (.actionRow index) ≠ [] →
        ∃ group ∈ v.actionRows, group.index = index) ∧
    ((d.members.map Member.name).Nodup → ∀ m ∈ d.members, ∃ markers,
      m.markers r = .ok markers ∧ v.categoryOf? m.name = some (.ofMarkers markers)) ∧
    ∀ name, name ∉ d.members.map Member.name → v.categoryOf? name = none := by
  unfold classify at h
  cases hmap : d.members.mapM fun (m : Member) => m.label r with
  | error e =>
    rw [hmap] at h
    cases h
  | ok labelled =>
    rw [hmap] at h
    obtain rfl : ClassifiedView.ofLabelled labelled binding = v := Except.ok.inj h
    have hlabels := labels_of_mapM hmap
    have hnames := names_of_labels hlabels
    -- every part is a fact about the labels, in the order of the members
    refine ⟨?_, ⟨?_, ?_, ?_⟩, ⟨?_, ?_, ?_⟩, ?_, ?_⟩
    · rw [hnames]
      exact ClassifiedView.ofLabelled_perm labelled binding
    · exact (namesOf_of_labels hlabels .sticker).symm
    · exact (namesOf_of_labels hlabels .embed).symm
    · exact (namesOf_of_labels hlabels .ignored).symm
    · exact RowGroup.ascending_ofSlots _
    · intro group hgroup
      refine ⟨RowGroup.members_ne_nil_ofSlots _ group hgroup, ?_⟩
      rw [namesOf_of_labels hlabels]
      exact ClassifiedView.members_of_mem_actionRows hgroup
    · intro index hne
      rw [namesOf_of_labels hlabels, ← ClassifiedView.rowAt_ofLabelled labelled binding] at hne
      exact RowGroup.exists_of_rowAt_ne_nil hne
    · intro hnodup m hmem
      obtain ⟨l, hl, hlabel⟩ := label_of_mem hlabels hmem
      obtain ⟨markers, hmarkers, hcategory⟩ := markers_of_hasLabel hlabel
      refine ⟨markers, hmarkers, ?_⟩
      rw [hcategory, hlabel.1]
      exact ClassifiedView.categoryOf?_eq_some (hnames ▸ hnodup) hl
    · intro name hname
      exact ClassifiedView.categoryOf?_eq_none (hnames ▸ hname)

/-- A view whose rows come last first, with markers on members that a stronger rule takes. -/
def greeting : Declaration where
  home := "crate::views"
  name := "Greeting"
  generics := []
  annotations := [.marker "porbeagle::DiscordView"]
  members := [
    ⟨"text", .plain "String", []⟩,
    ⟨"later", .plain "porbeagle::Button", [⟨some "porbeagle::attributes::action_row", [.int 3]⟩]⟩,
    ⟨"wave", .plain "porbeagle::Snowflake", [.marker "porbeagle::attributes::sticker",
      ⟨some "porbeagle::attributes::action_row", [.int 3]⟩]⟩,
    ⟨"first", .plain "porbeagle::Button", [⟨some "porbeagle::attributes::action_row", [.int 0]⟩]⟩,
    ⟨"card", .plain "porbeagle::Embed", [⟨some "porbeagle::attributes::action_row", [.int 0]⟩]⟩,
    ⟨"last", .plain "porbeagle::Button", [⟨some "porbeagle::attributes::action_row", [.int 3]⟩]⟩]
  interfaces := [.plain "porbeagle::MessageView"]

def fullRegistry : Registry where
  viewMarker := some WellKnown.standard.viewMarker
  stickerMarker := some WellKnown.standard.stickerMarker
  actionRowMarker := some WellKnown.standard.actionRowMarker
  capability := some WellKnown.standard.capability
  snowflake := some WellKnown.standard.snowflake
  embed := some WellKnown.standard.embed

def sortedGreeting : ClassifiedView where
  stickers := ["wave"]
  embeds := ["card"]
  actionRows := [⟨0, ["first"]⟩, ⟨3, ["later", "last"]⟩]
  ignored := ["text"]
  binding := none

theorem classify_sorts_greeting :
    greeting.classify fullRegistry none = .ok sortedGreeting ∧
    ["wave", "card", "first", "later", "last", "text"].Perm (greeting.members.map Member.name) ∧
    ["later", "last"] = greeting.namesOf fullRegistry (.actionRow 3) ∧
    (∀ m ∈ greeting.members, ∃ markers, m.markers fullRegistry = .ok markers ∧
      sortedGreeting.categoryOf? m.name = some (.ofMarkers markers)) ∧
    sortedGreeting.categoryOf? "Greeting" = none := by
  have h : greeting.classify fullRegistry none = .ok sortedGreeting := by decide
  obtain ⟨hperm, -, ⟨-, hrows, -⟩, hfound, hother⟩ := classify_sorts_members h
  refine ⟨h, hperm, ?_, hfound (by decide), hother "Greeting" (by decide)⟩
  exact (hrows ⟨3, ["later", "last"]⟩ (by decide)).2

end Declaration

end ViewCompanion
