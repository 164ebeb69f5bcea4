import ViewCompanion.Proofs.Crate.Attributes
import ViewCompanion.Proofs.Crate.Modules
import ViewCompanion.Proofs.Source.DeriveInput
import ViewCompanion.View.Classified
import ViewCompanion.View.Derive

namespace ViewCompanion

open Source

namespace Source

section Index

variable {value : Nat} {suffix : List Char} {text : String} {a : Attribute} {n : UInt32}

theorem ofNegated_ne_int (s : String) : Literal.ofNegated s ≠ .int false value suffix text := by
  unfold Literal.ofNegated
  split <;> simp

/-- A whole number without a minus that stands alone is one token. -/
theorem eq_literal_of_literal? {tokens written : List Token}
    (h : literal? tokens = some (.int false value suffix text, written, [])) :
    ∃ s, tokens = [.literal s] ∧ Literal.ofText s = .int false value suffix text := by
  unfold literal? at h
  split at h
  · rename_i s rest
    simp only [Option.some.injEq, Prod.mk.injEq] at h
    obtain ⟨hliteral, -, rfl⟩ := h
    exact ⟨s, rfl, hliteral⟩
  · cases h
  · cases h
  · rename_i s rest
    split at h
    · simp only [Option.some.injEq, Prod.mk.injEq] at h
      exact absurd h.1 (ofNegated_ne_int s)
    · cases h
  · cases h

theorem eq_of_rowIndex (h : a.rowIndex = .ok n) : ∃ s value suffix text,
    a.content = .list [.literal s] ∧ Literal.ofText s = .int false value suffix text ∧
      value < UInt32.size ∧ n = UInt32.ofNat value := by
  unfold Attribute.rowIndex at h
  split at h
  · rename_i tokens hcontent
    split at h
    · rename_i negative value suffix text written hliteral
      split at h
      · cases h
      · rename_i hsign
        rw [Bool.not_eq_true] at hsign
        subst hsign
        split at h
        · rename_i hsize
          cases h
          obtain ⟨s, rfl, hs⟩ := eq_literal_of_literal? hliteral
          exact ⟨s, value, suffix, text, hcontent, hs, hsize, rfl⟩
        · cases h
    · cases h
  · cases h

theorem valuesOf?_literal (s : String) : valuesOf? [.literal s] = some [.literal (.ofText s)] :=
  rfl

end Index

section Faults

variable {attributes : List Attribute}

theorem isRow_of_isSticker {a : Attribute} (h : a.path.isName "sticker" = true) :
    a.isRow = false := by
  unfold Attribute.isRow NamePath.isName at *
  simp_all

/-- After a row attribute no other one is without fault. -/
theorem filter_isRow_of_seen (h : Field.faultsFrom true attributes = []) :
    attributes.filter Attribute.isRow = [] := by
  induction attributes with
  | nil => rfl
  | cons a rest ih =>
    rw [Field.faultsFrom] at h
    split at h
    · rename_i hsticker
      rw [List.filter_cons_of_neg (by simp [isRow_of_isSticker hsticker])]
      exact ih (List.append_eq_nil_iff.1 h).2
    · split at h
      · exact absurd (List.append_eq_nil_iff.1 h).1 (by simp)
      · rename_i hrow
        rw [List.filter_cons_of_neg (show ¬ a.isRow = true from hrow)]
        exact ih h

/-- Without faults there is at most one row attribute, and it has an index. -/
theorem filter_isRow_of_faults (h : Field.faultsFrom false attributes = []) :
    attributes.filter Attribute.isRow = [] ∨
      ∃ a n, attributes.filter Attribute.isRow = [a] ∧ a.rowIndex = .ok n := by
  induction attributes with
  | nil => exact .inl rfl
  | cons a rest ih =>
    rw [Field.faultsFrom] at h
    split at h
    · rename_i hsticker
      rw [List.filter_cons_of_neg (by simp [isRow_of_isSticker hsticker])]
      exact ih (List.append_eq_nil_iff.1 h).2
    · split at h
      · rename_i hrow
        obtain ⟨hindex, hrest⟩ := List.append_eq_nil_iff.1 h
        rw [List.filter_cons_of_pos (show a.isRow = true from hrow), filter_isRow_of_seen hrest]
        cases ha : a.rowIndex with
        | ok n => exact .inr ⟨a, n, rfl, ha⟩
        | error fault =>
          rw [ha] at hindex
          simp at hindex
      · rename_i hrow
        rw [List.filter_cons_of_neg (show ¬ a.isRow = true from hrow)]
        exact ih h

end Faults

end Source

/-- An index that the derive reads is the index that a run reads. -/
theorem rowIndex_arguments {a : Attribute} {n : UInt32} (h : a.rowIndex = .ok n) (r : Resolver)
    (home : String) : rowIndex (r.arguments home a.content) = .ok n := by
  obtain ⟨s, value, suffix, text, hcontent, hliteral, hsize, rfl⟩ := eq_of_rowIndex h
  have hbound : value < 4294967296 := hsize
  have hargument : Resolver.literalArgument (.int false value suffix text) =
      .int (Int64.ofInt value) := by
    simp only [Resolver.literalArgument, Text.int64Bound, Bool.false_eq_true, if_false]
    exact if_pos (by omega)
  have hint : (Int64.ofInt value).toInt = value :=
    Int64.toInt_ofInt_of_le (by omega) (by omega)
  have harguments : r.arguments home a.content = [.int (Int64.ofInt value)] := by
    rw [hcontent, Resolver.arguments, valuesOf?_literal]
    simp only [List.map_cons, List.map_nil, Resolver.argument, hliteral, hargument]
  rw [harguments, rowIndex, hint, if_pos (by omega), Int.toNat_natCast]

section Member

variable {r : Resolver} {home : String} {registry : Registry}

/-- The row of a member is the one that the derive reads off its field. -/
def Member.HasRowOf (registry : Registry) (field : Field) (m : Member) : Prop :=
  ∃ markers, m.markers registry = .ok markers ∧ ∀ n, markers.actionRow = some n ↔
    ∃ a ∈ field.attributes, a.path.isName "action_row" = true ∧ a.rowIndex = .ok n

theorem Member.hasRowOf_of_actionRow {m : Member} {field : Field} (row : Option UInt32)
    (h : m.actionRow registry.actionRowMarker = .ok row)
    (hrow : ∀ n, row = some n ↔
      ∃ a ∈ field.attributes, a.path.isName "action_row" = true ∧ a.rowIndex = .ok n) :
    m.HasRowOf registry field := by
  unfold HasRowOf markers
  rw [h]
  exact ⟨_, rfl, hrow⟩

theorem Resolver.member_hasRowOf (hcrate : r.crateName = "crate")
    (hhome : "crate".toList <+: home.toList) (hkeeps : r.KeepsRowMarker home)
    (hknows : r.knows rowMarker = true) (hmarker : registry.actionRowMarker = some rowMarker)
    {field : Field} (hplain : ∀ a ∈ field.attributes, a.IsPlain)
    (hfaults : Field.faultsFrom false field.attributes = [])
    (aliases : List (QualifiedName × ResolvedType)) (position : Nat) :
    (r.member home helpers? aliases field position).HasRowOf registry field := by
  have hannotations : (r.member home helpers? aliases field position).annotationsOf rowMarker =
      (field.attributes.filter Attribute.isRow).map fun a =>
        ⟨some rowMarker, r.arguments home a.content⟩ :=
    filter_flatMap_annotationsOf hcrate hhome hkeeps hknows hplain
  have hmem (a : Attribute) : a ∈ field.attributes ∧ a.path.isName "action_row" = true ↔
      a ∈ field.attributes.filter Attribute.isRow := by
    rw [List.mem_filter]
    rfl
  rcases filter_isRow_of_faults hfaults with hnone | ⟨a, n, hone, hn⟩
  · refine Member.hasRowOf_of_actionRow none ?_ ?_
    · rw [hmarker, Member.actionRow, hannotations, hnone]
      rfl
    · intro n
      simp only [← and_assoc, hmem, hnone]
      simp
  · refine Member.hasRowOf_of_actionRow (some n) ?_ ?_
    · rw [hmarker, Member.actionRow, hannotations, hone]
      simp only [List.map_cons, List.map_nil, Member.rowIndexOf, rowIndex_arguments hn]
      rfl
    · intro k
      simp only [← and_assoc, hmem, hone]
      simp [hn]

end Member

section Declaration

variable {registry : Registry} {d : Declaration}

theorem RowGroup.eq_tooManyActionRows_of_checkLimit {groups : List RowGroup} {limit : Option Nat}
    {e : ViewError} (h : checkLimit groups limit = .error e) :
    ∃ max, limit = some max ∧ max < groups.length ∧ e = .tooManyActionRows groups.length max := by
  unfold checkLimit at h
  split at h
  · rename_i max
    split at h
    · rename_i hmax
      cases h
      exact ⟨max, rfl, hmax, rfl⟩
    · cases h
  · cases h

theorem Declaration.exists_labels {members : List Member}
    (h : ∀ m ∈ members, ∃ markers, m.markers registry = .ok markers) :
    ∃ labelled, (members.mapM fun (m : Member) => m.label registry) = .ok labelled := by
  induction members with
  | nil => exact ⟨[], rfl⟩
  | cons m rest ih =>
    obtain ⟨markers, hmarkers⟩ := h m List.mem_cons_self
    obtain ⟨labelled, hlabelled⟩ := ih fun n hn => h n (List.mem_cons_of_mem m hn)
    rw [List.mapM_cons, hlabelled, Member.label, hmarkers]
    exact ⟨_, rfl⟩

/-- What is not generic and has no bad markers can only have too many rows. -/
theorem Declaration.eq_tooManyActionRows_of_process (hgenerics : d.generics = [])
    (hmarkers : ∀ m ∈ d.members, ∃ markers, m.markers registry = .ok markers)
    {limit : Option Nat} {e : ViewError} (h : d.process registry limit = .error e) :
    ∃ count max, limit = some max ∧ max < count ∧ e = .tooManyActionRows count max := by
  obtain ⟨labelled, hlabelled⟩ := exists_labels hmarkers
  unfold process classify at h
  rw [hgenerics, hlabelled] at h
  cases hlimit : RowGroup.checkLimit
      (ClassifiedView.ofLabelled labelled (d.binding? registry)).actionRows limit with
  | ok u =>
    simp [Except.map, hlimit, Bind.bind, Except.bind, pure, Except.pure] at h
  | error fault =>
    simp only [List.isEmpty_nil, if_true, Except.map, Bind.bind, Except.bind, hlimit,
      Except.error.injEq] at h
    obtain ⟨max, hmax⟩ := RowGroup.eq_tooManyActionRows_of_checkLimit hlimit
    exact ⟨_, max, h ▸ hmax⟩

/-- A run gives `d` the rows that a derive reads off `item`, and finds no other fault in it. -/
structure Declaration.AgreesWith (registry : Registry) (item : StructItem) (d : Declaration) :
    Prop where
  not_generic : d.generics = []
  rows : List.Forall₂ (Member.HasRowOf registry) item.fields d.members
  only_fault : ∀ limit e, d.process registry limit = .error e →
    ∃ count max, limit = some max ∧ max < count ∧ e = .tooManyActionRows count max

variable {modules : List SourceModule} {home : String} {item : StructItem}

/-- `d` is the declaration of `item` in the module `home` of a crate, with any interfaces. -/
def Declaration.IsOf (modules : List SourceModule) (home : String) (item : StructItem)
    (d : Declaration) : Prop :=
  ∃ aliases interfaces, d = { (Resolver.ofModules .standard modules).declaration .standard aliases
    home item with interfaces }

theorem Declaration.IsOf.generics_eq (h : d.IsOf modules home item) :
    d.generics = item.generics := by
  obtain ⟨aliases, interfaces, rfl⟩ := h
  rfl

theorem Resolver.exists_of_mem_attach {interfaces : List (QualifiedName × ResolvedType)}
    {declarations : List Declaration} (h : d ∈ attach interfaces declarations) :
    ∃ e ∈ declarations, ∃ interfaces, d = { e with interfaces } := by
  induction declarations with
  | nil => cases h
  | cons e rest ih =>
    rw [attach] at h
    rcases List.mem_cons.1 h with rfl | h
    · refine ⟨e, List.mem_cons_self, ?_⟩
      split
      · exact ⟨e.interfaces, rfl⟩
      · exact ⟨_, rfl⟩
    · obtain ⟨f, hf, hd⟩ := ih h
      exact ⟨f, List.mem_cons_of_mem e hf, hd⟩

/-- Every declaration of a snapshot is that of a struct in one of its modules. -/
theorem Snapshot.exists_isOf_of_mem (h : d ∈ (ofModules .standard modules).declarations) :
    ∃ m ∈ modules, ∃ item, .struct item ∈ m.items ∧ d.IsOf modules m.path item := by
  obtain ⟨e, he, interfaces, rfl⟩ := Resolver.exists_of_mem_attach h
  obtain ⟨m, hm, hitem⟩ := List.mem_flatMap.1 he
  obtain ⟨item, hmem, hfound⟩ := List.mem_filterMap.1 hitem
  split at hfound
  · rename_i item
    cases hfound
    exact ⟨m, hm, item, hmem, _, interfaces, rfl⟩
  · cases hfound

theorem mem_references_rowMarker : rowMarker ∈ Config.standard.references :=
  NameSet.mem_ofList.2 (by decide)

theorem Resolver.knows_rowMarker (modules : List SourceModule) :
    (ofModules .standard modules).knows rowMarker = true :=
  NameSet.contains_iff.2 (NameSet.mem_union.2 (.inl mem_references_rowMarker))

theorem Registry.actionRowMarker_ofModules (modules : List SourceModule) :
    (ofSnapshot (.ofModules .standard modules) .standard).actionRowMarker = some rowMarker := by
  have hdefines : (Snapshot.ofModules .standard modules).defines rowMarker = true := by
    rw [Snapshot.defines, Bool.or_eq_true]
    exact .inl (NameSet.contains_iff.2 mem_references_rowMarker)
  exact (get?_ofSnapshot _ .standard .actionRowMarker).trans (if_pos hdefines)

theorem forall₂_mapIdx {α β : Type} {R : α → β → Prop} {xs : List α} (f : Nat → α → β)
    (h : ∀ x ∈ xs, ∀ i, R x (f i x)) : List.Forall₂ R xs (xs.mapIdx f) := by
  induction xs generalizing f with
  | nil => exact .nil
  | cons x rest ih =>
    rw [List.mapIdx_cons]
    exact .cons (h x List.mem_cons_self 0)
      (ih _ fun y hy i => h y (List.mem_cons_of_mem x hy) (i + 1))

theorem Source.StructItem.of_faults (h : item.deriveInput.faults = []) :
    item.generics = [] ∧ ∀ field ∈ item.fields, Field.faultsFrom false field.attributes = [] := by
  unfold StructItem.deriveInput DeriveInput.faults at h
  simpa using h

theorem Declaration.exists_markers_of_rows {fields : List Field} {members : List Member}
    (h : List.Forall₂ (Member.HasRowOf registry) fields members) :
    ∀ m ∈ members, ∃ markers, m.markers registry = .ok markers := by
  induction h with
  | nil => exact List.forall_mem_nil _
  | cons hrow _ ih =>
    obtain ⟨markers, hmarkers, -⟩ := hrow
    exact List.forall_mem_cons.2 ⟨⟨markers, hmarkers⟩, ih⟩

theorem Declaration.AgreesWith.of_rows (hgenerics : d.generics = [])
    (hrows : List.Forall₂ (Member.HasRowOf registry) item.fields d.members) :
    d.AgreesWith registry item :=
  ⟨hgenerics, hrows, fun _ _ => eq_tooManyActionRows_of_process hgenerics
    (exists_markers_of_rows hrows)⟩

theorem Declaration.rows_of_faults (hd : d.IsOf modules home item)
    (hhome : "crate".toList <+: home.toList)
    (hkeeps : (Resolver.ofModules .standard modules).KeepsRowMarker home)
    (hplain : ∀ field ∈ item.fields, ∀ a ∈ field.attributes, a.IsPlain)
    (hview : d.isAnnotated WellKnown.standard.viewMarker = true)
    (hfields : ∀ field ∈ item.fields, Field.faultsFrom false field.attributes = []) :
    List.Forall₂ (Member.HasRowOf (.ofSnapshot (.ofModules .standard modules) .standard))
      item.fields d.members := by
  obtain ⟨aliases, interfaces, rfl⟩ := hd
  have hhelpers : Resolver.helpersOf .standard (item.attributes.flatMap
      ((Resolver.ofModules .standard modules).annotationsOf home none)) = Resolver.helpers? :=
    if_pos hview
  unfold Resolver.declaration
  dsimp only
  rw [hhelpers]
  apply forall₂_mapIdx
  intro field hfield position
  exact Resolver.member_hasRowOf rfl hhome hkeeps (Resolver.knows_rowMarker modules)
    (Registry.actionRowMarker_ofModules modules) (hplain field hfield) (hfields field hfield)
    aliases position

/-- A view that the derive accepts is generated, unless it has too many rows. Its module may be any
of the crate, all of which lie inside `crate`. -/
theorem Declaration.agreesWith_of_faults (hd : d.IsOf modules home item)
    (hhome : "crate".toList <+: home.toList)
    (hkeeps : (Resolver.ofModules .standard modules).KeepsRowMarker home)
    (hplain : ∀ field ∈ item.fields, ∀ a ∈ field.attributes, a.IsPlain)
    (hview : d.isAnnotated WellKnown.standard.viewMarker = true)
    (hfaults : item.deriveInput.faults = []) :
    d.AgreesWith (.ofSnapshot (.ofModules .standard modules) .standard) item := by
  obtain ⟨hgenerics, hfields⟩ := StructItem.of_faults hfaults
  apply AgreesWith.of_rows
  · exact hd.generics_eq.trans hgenerics
  · exact rows_of_faults hd hhome hkeeps hplain hview hfields

def greetingItem : StructItem where
  attributes := [⟨⟨false, ["derive"]⟩, .list [.ident "DiscordView"]⟩]
  name := "Greeting"
  generics := []
  fields := [
    ⟨[⟨⟨false, ["doc"]⟩, .value (.literal (.str "Waves."))⟩, ⟨⟨false, ["sticker"]⟩, .word⟩],
      some "wave", .path ⟨false, ["Snowflake"]⟩ true []⟩,
    ⟨[⟨⟨false, ["action_row"]⟩, .list [.literal "0x1F_u8"]⟩], some "accept",
      .path ⟨false, ["Button"]⟩ true []⟩]

def greetingModule : SourceModule :=
  ⟨"crate::views", [.use (.path "porbeagle" (.name "DiscordView")), .struct greetingItem]⟩

def greetingCrate : List SourceModule :=
  SourceModule.inText ⟨"crate", [.module [] "views" (some greetingModule.items)]⟩

theorem greetingCrate_eq :
    greetingCrate = [⟨"crate", [.module [] "views" (some greetingModule.items)]⟩, greetingModule] :=
  rfl

theorem keepsRowMarker_greeting :
    (Resolver.ofModules .standard greetingCrate).KeepsRowMarker "crate::views" :=
  Resolver.keepsRowMarker_of_imports (by decide +kernel)

/-- The derive finds no fault in a greeting, so the run gives its rows. -/
theorem Declaration.agreesWith_of_faults_greeting :
    ∃ d ∈ (Snapshot.ofModules .standard greetingCrate).declarations,
      d.AgreesWith (.ofSnapshot (.ofModules .standard greetingCrate) .standard) greetingItem ∧
        d.members.map Member.name = ["wave", "accept"] := by
  have hhome : "crate".toList <+: "crate::views".toList :=
    SourceModule.path_prefix_of_mem_inText (greetingCrate_eq ▸ List.mem_cons_of_mem _
      List.mem_cons_self : greetingModule ∈ greetingCrate)
  have hview : ((Resolver.ofModules .standard greetingCrate).declaration .standard []
      "crate::views" greetingItem).isAnnotated WellKnown.standard.viewMarker = true := by
    decide +kernel
  have hplain : ∀ field ∈ greetingItem.fields, ∀ a ∈ field.attributes, a.IsPlain := by
    unfold greetingItem
    simp only [List.forall_mem_cons, List.not_mem_nil, false_imp_iff, implies_true, and_true]
    exact ⟨⟨⟨"doc", by decide, by decide, rfl⟩, ⟨"sticker", by decide, by decide, rfl⟩⟩,
      ⟨"action_row", by decide, by decide, rfl⟩⟩
  have hfaults : greetingItem.deriveInput.faults = [] := by
    decide +kernel
  refine ⟨_, List.mem_cons_self, ?_, rfl⟩
  exact agreesWith_of_faults ⟨[], [], rfl⟩ hhome keepsRowMarker_greeting hplain hview hfaults

end Declaration

end ViewCompanion
