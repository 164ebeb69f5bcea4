import Mathlib.Data.Option.Basic
import Mathlib.Data.Prod.Lex
import ViewCompanion.Proofs.Message.Limits

namespace ViewCompanion.Payload

/-- What is wrong with a component at `index` of the top level. -/
inductive ComponentBreaks (index : Nat) : Component → Fault → Prop
  | outsideRow {c : Component} (h : ∀ parts, c ≠ .row parts) :
      ComponentBreaks index c (.componentOutsideRow index)
  | emptyRow : ComponentBreaks index (.row []) (.emptyActionRow index)
  | tooMany {parts : List Component} (h : 5 < parts.length) :
      ComponentBreaks index (.row parts) (.tooManyRowComponents index parts.length 5)
  | nested {parts inner : List Component} (h : .row inner ∈ parts) :
      ComponentBreaks index (.row parts) (.nestedActionRow index)

/-- What is wrong with a message, one way for each rule of the platform. -/
inductive Breaks (p : Payload) : Fault → Prop
  | empty (hcontent : ∀ text ∈ p.content, text = "") (hembeds : p.embeds = [])
      (hcomponents : p.components = []) (hstickers : p.stickers = []) : Breaks p .empty
  | contentTooLong {text : String} (hcontent : text ∈ p.content) (hlong : 2000 < text.length) :
      Breaks p (.contentTooLong text.length 2000)
  | tooManyEmbeds (h : 10 < p.embeds.length) : Breaks p (.tooManyEmbeds p.embeds.length 10)
  | tooManyStickers (h : 3 < p.stickers.length) : Breaks p (.tooManyStickers p.stickers.length 3)
  | tooManyActionRows (h : 5 < p.components.length) :
      Breaks p (.tooManyActionRows p.components.length 5)
  | component {i : Nat} {c : Component} {fault : Fault} (hc : p.components[i]? = some c)
      (h : ComponentBreaks i c fault) : Breaks p fault

namespace Fault

/-- The rules about the whole message come first, those about its components last. -/
def stage : Fault → Nat
  | empty => 0
  | contentTooLong .. => 1
  | tooManyEmbeds .. => 2
  | tooManyStickers .. => 3
  | tooManyActionRows .. => 4
  | componentOutsideRow _ | emptyActionRow _ | tooManyRowComponents .. | nestedActionRow _ => 5

def position : Fault → Nat
  | componentOutsideRow i | emptyActionRow i | tooManyRowComponents i .. | nestedActionRow i => i
  | _ => 0

/-- What comes first when several things are wrong with one component. -/
def kind : Fault → Nat
  | emptyActionRow _ => 1
  | tooManyRowComponents .. => 2
  | nestedActionRow _ => 3
  | _ => 0

/-- The order of faults: by rule, by component, and by what is wrong with the component. -/
def rank (fault : Fault) : ℕ ×ₗ ℕ ×ₗ ℕ :=
  toLex (fault.stage, toLex (fault.position, fault.kind))

variable {a b : Fault}

theorem rank_le_of_stage_lt (h : a.stage < b.stage) : a.rank ≤ b.rank :=
  Prod.Lex.toLex_le_toLex.2 (.inl h)

theorem rank_le_of_position_lt (hstage : a.stage = b.stage) (h : a.position < b.position) :
    a.rank ≤ b.rank :=
  Prod.Lex.toLex_le_toLex.2 (.inr ⟨hstage, Prod.Lex.toLex_le_toLex.2 (.inl h)⟩)

theorem rank_le_of_kind_le (hstage : a.stage = b.stage) (hposition : a.position = b.position)
    (h : a.kind ≤ b.kind) : a.rank ≤ b.rank :=
  Prod.Lex.toLex_le_toLex.2 (.inr ⟨hstage, Prod.Lex.toLex_le_toLex.2 (.inr ⟨hposition, h⟩)⟩)

theorem eq_of_rank_eq (h : a.rank = b.rank) :
    a.stage = b.stage ∧ a.position = b.position ∧ a.kind = b.kind := by
  have houter := Prod.mk.inj (toLex.injective h)
  have hinner := Prod.mk.inj (toLex.injective houter.2)
  exact ⟨houter.1, hinner.1, hinner.2⟩

end Fault

/-- The message breaks this rule, and none that comes before. -/
def IsFirstFault (p : Payload) (fault : Fault) : Prop :=
  p.Breaks fault ∧ ∀ other, p.Breaks other → fault.rank ≤ other.rank

structure IsDeliverable (p : Payload) : Prop where
  nonempty : (∃ text ∈ p.content, text ≠ "") ∨ p.embeds ≠ [] ∨ p.components ≠ [] ∨ p.stickers ≠ []
  content : ∀ text ∈ p.content, text.length ≤ 2000
  embeds : p.embeds.length ≤ 10
  stickers : p.stickers.length ≤ 3
  rows : p.components.length ≤ 5
  components : ∀ c ∈ p.components, ∃ parts, c = .row parts ∧ 1 ≤ parts.length ∧
    parts.length ≤ 5 ∧ ∀ part ∈ parts, ∀ inner, part ≠ .row inner

variable {p : Payload} {fault other : Fault} {c : Component} {i n : Nat}

section Component

theorem ComponentBreaks.stage_eq (h : ComponentBreaks i c fault) : fault.stage = 5 := by
  cases h <;> rfl

theorem ComponentBreaks.position_eq (h : ComponentBreaks i c fault) : fault.position = i := by
  cases h <;> rfl

/-- A component is wrong in one way of each kind. -/
theorem ComponentBreaks.eq_of_kind_eq (h : ComponentBreaks i c fault)
    (h' : ComponentBreaks i c other) (hkind : fault.kind = other.kind) : fault = other := by
  cases h <;> cases h' <;> first | rfl | cases hkind

theorem any_isRow_iff {parts : List Component} :
    parts.any Component.isRow = true ↔ ∃ inner, .row inner ∈ parts := by
  rw [List.any_eq_true]
  constructor
  · rintro ⟨part, hpart, hrow⟩
    cases part with
    | row inner => exact ⟨inner, hpart⟩
    | button b => cases hrow
    | selectMenu m => cases hrow
  · rintro ⟨inner, hinner⟩
    exact ⟨_, hinner, rfl⟩

theorem componentFault?_row (index : Nat) (parts : List Component) :
    (parts = [] ∧ componentFault? index (.row parts) = some (.emptyActionRow index)) ∨
    (5 < parts.length ∧ componentFault? index (.row parts) =
      some (.tooManyRowComponents index parts.length 5)) ∨
    (parts ≠ [] ∧ parts.length ≤ 5 ∧ (∃ inner, .row inner ∈ parts) ∧
      componentFault? index (.row parts) = some (.nestedActionRow index)) ∨
    (parts ≠ [] ∧ parts.length ≤ 5 ∧ (¬ ∃ inner, .row inner ∈ parts) ∧
      componentFault? index (.row parts) = none) := by
  unfold componentFault? maxRowComponents
  by_cases hempty : parts = []
  · exact .inl ⟨hempty, by simp [hempty]⟩
  by_cases hmany : 5 < parts.length
  · exact .inr (.inl ⟨hmany, by simp [hempty, hmany]⟩)
  by_cases hnested : ∃ inner, Component.row inner ∈ parts
  · have hany := any_isRow_iff.2 hnested
    exact .inr (.inr (.inl ⟨hempty, Nat.not_lt.1 hmany, hnested, by simp [hempty, hmany, hany]⟩))
  · have hany : parts.any Component.isRow = false :=
      Bool.eq_false_iff.2 fun hany => hnested (any_isRow_iff.1 hany)
    exact .inr (.inr (.inr ⟨hempty, Nat.not_lt.1 hmany, hnested, by simp [hempty, hmany, hany]⟩))

/-- The fault of a component is the first of what is wrong with it. -/
theorem componentFault?_spec (i : Nat) (c : Component) :
    (∃ fault, componentFault? i c = some fault ∧ ComponentBreaks i c fault ∧
      ∀ other, ComponentBreaks i c other → fault.kind ≤ other.kind) ∨
    (componentFault? i c = none ∧ ∀ fault, ¬ ComponentBreaks i c fault) := by
  by_cases hrow : ∃ parts, c = .row parts
  · obtain ⟨parts, rfl⟩ := hrow
    -- empty, too long, with a row inside, or without fault
    rcases componentFault?_row i parts with
      ⟨rfl, h⟩ | ⟨hmany, h⟩ | ⟨hne, hfew, ⟨inner, hinner⟩, h⟩ | ⟨hne, hfew, hflat, h⟩
    · refine .inl ⟨_, h, .emptyRow, fun other hother => ?_⟩
      cases hother with
      | outsideRow houtside => exact absurd rfl (houtside _)
      | emptyRow => exact Nat.le_refl 1
      | tooMany hmany => exact absurd hmany (by decide)
      | nested hinner => cases hinner
    · refine .inl ⟨_, h, .tooMany hmany, fun other hother => ?_⟩
      cases hother with
      | outsideRow houtside => exact absurd rfl (houtside _)
      | emptyRow => exact absurd hmany (by decide)
      | tooMany => exact Nat.le_refl 2
      | nested => exact Nat.le_succ 2
    · refine .inl ⟨_, h, .nested hinner, fun other hother => ?_⟩
      cases hother with
      | outsideRow houtside => exact absurd rfl (houtside _)
      | emptyRow => exact absurd rfl hne
      | tooMany hmany => exact absurd hmany (Nat.not_lt.2 hfew)
      | nested => exact Nat.le_refl 3
    · refine .inr ⟨h, fun fault hfault => ?_⟩
      cases hfault with
      | outsideRow houtside => exact houtside _ rfl
      | emptyRow => exact hne rfl
      | tooMany hmany => exact Nat.not_lt.2 hfew hmany
      | nested hinner => exact hflat ⟨_, hinner⟩
  · have houtside (parts : List Component) : c ≠ .row parts := fun h => hrow ⟨parts, h⟩
    have hfault : componentFault? i c = some (.componentOutsideRow i) := by
      cases c with
      | row parts => exact absurd rfl (houtside parts)
      | button b => rfl
      | selectMenu m => rfl
    exact .inl ⟨_, hfault, .outsideRow houtside, fun other _ => Nat.zero_le other.kind⟩

end Component

section Order

theorem length_eq_contentLength {text : String} (h : text ∈ p.content) :
    text.length = p.contentLength := by
  unfold contentLength
  rw [Option.mem_def.1 h]
  rfl

/-- What can be wrong with the whole message, rule by rule. -/
def wholeFault (p : Payload) : Nat → Fault
  | 0 => .empty
  | 1 => .contentTooLong p.contentLength 2000
  | 2 => .tooManyEmbeds p.embeds.length 10
  | 3 => .tooManyStickers p.stickers.length 3
  | _ => .tooManyActionRows p.components.length 5

theorem stage_wholeFault (hn : n < 5) : (p.wholeFault n).stage = n := by
  match n with
  | 0 | 1 | 2 | 3 | 4 => rfl

/-- Each rule about the whole message can be broken in one way only. -/
theorem Breaks.eq_wholeFault (h : p.Breaks fault) (hwhole : fault.stage < 5) :
    fault = p.wholeFault fault.stage := by
  cases h with
  | contentTooLong htext hlong =>
    rw [length_eq_contentLength htext]
    rfl
  | component hc hbreaks => exact absurd hbreaks.stage_eq hwhole.ne
  | _ => rfl

theorem Breaks.exists_component (h : p.Breaks fault) (hinside : 5 ≤ fault.stage) :
    ∃ i c, p.components[i]? = some c ∧ ComponentBreaks i c fault := by
  cases h with
  | component hc hbreaks => exact ⟨_, _, hc, hbreaks⟩
  | _ => simp [Fault.stage] at hinside

/-- Two faults of one message differ in their place in the order. -/
theorem Breaks.eq_of_rank_eq (h : p.Breaks fault) (h' : p.Breaks other)
    (hrank : fault.rank = other.rank) : fault = other := by
  obtain ⟨hstage, hposition, hkind⟩ := Fault.eq_of_rank_eq hrank
  by_cases hwhole : fault.stage < 5
  · rw [h.eq_wholeFault hwhole, h'.eq_wholeFault (hstage ▸ hwhole), hstage]
  · obtain ⟨i, c, hc, hbreaks⟩ := h.exists_component (Nat.not_lt.1 hwhole)
    obtain ⟨j, d, hd, hbreaks'⟩ := h'.exists_component (hstage ▸ Nat.not_lt.1 hwhole)
    obtain rfl : i = j := hbreaks.position_eq.symm.trans (hposition.trans hbreaks'.position_eq)
    obtain rfl := Option.some.inj (hc.symm.trans hd)
    exact hbreaks.eq_of_kind_eq hbreaks' hkind

theorem IsFirstFault.eq (h : p.IsFirstFault fault) (h' : p.IsFirstFault other) : fault = other :=
  h.1.eq_of_rank_eq h'.1 (le_antisymm (h.2 other h'.1) (h'.2 fault h.1))

/-- The message breaks no rule that comes before the rule `n`. -/
def KeepsBefore (p : Payload) (n : Nat) : Prop :=
  ∀ fault, p.Breaks fault → n ≤ fault.stage

theorem KeepsBefore.succ (h : p.KeepsBefore n) (hn : n < 5) (hkeeps : ¬ p.Breaks (p.wholeFault n)) :
    p.KeepsBefore (n + 1) := by
  intro fault hfault
  refine Nat.lt_of_le_of_ne (h fault hfault) ?_
  rintro rfl
  exact hkeeps (hfault.eq_wholeFault hn ▸ hfault)

theorem KeepsBefore.isFirstFault (h : p.KeepsBefore n) (hn : n < 5)
    (hfault : p.Breaks (p.wholeFault n)) : p.IsFirstFault (p.wholeFault n) := by
  refine ⟨hfault, fun other hother => ?_⟩
  rcases Nat.lt_or_eq_of_le (h other hother) with hlt | rfl
  · exact Fault.rank_le_of_stage_lt ((stage_wholeFault hn).symm ▸ hlt)
  · rw [← hother.eq_wholeFault hn]

end Order

section Rules

theorem breaks_empty_iff : p.Breaks .empty ↔ p.isEmpty = true := by
  have hcontent : p.contentLength = 0 ↔ ∀ text ∈ p.content, text = "" := by
    unfold contentLength
    cases p.content <;> simp
  unfold isEmpty
  simp only [Bool.and_eq_true, beq_iff_eq, List.isEmpty_iff, hcontent]
  constructor
  · intro h
    cases h with
    | empty hcontent hembeds hcomponents hstickers =>
      exact ⟨⟨⟨hcontent, hembeds⟩, hcomponents⟩, hstickers⟩
    | component hc h => cases h
  · rintro ⟨⟨⟨hcontent, hembeds⟩, hcomponents⟩, hstickers⟩
    exact .empty hcontent hembeds hcomponents hstickers

theorem breaks_contentTooLong_iff :
    p.Breaks (.contentTooLong p.contentLength 2000) ↔ 2000 < p.contentLength := by
  constructor
  · generalize p.contentLength = length
    intro h
    cases h with
    | contentTooLong htext hlong => exact hlong
    | component hc h => cases h
  · intro h
    cases hcontent : p.content with
    | none => simp [contentLength, hcontent] at h
    | some text =>
      rw [← length_eq_contentLength hcontent] at h ⊢
      exact .contentTooLong hcontent h

theorem breaks_tooManyEmbeds_iff :
    p.Breaks (.tooManyEmbeds p.embeds.length 10) ↔ 10 < p.embeds.length := by
  refine ⟨fun h => ?_, .tooManyEmbeds⟩
  cases h with
  | tooManyEmbeds h => exact h
  | component hc h => cases h

theorem breaks_tooManyStickers_iff :
    p.Breaks (.tooManyStickers p.stickers.length 3) ↔ 3 < p.stickers.length := by
  refine ⟨fun h => ?_, .tooManyStickers⟩
  cases h with
  | tooManyStickers h => exact h
  | component hc h => cases h

theorem breaks_tooManyActionRows_iff :
    p.Breaks (.tooManyActionRows p.components.length 5) ↔ 5 < p.components.length := by
  refine ⟨fun h => ?_, .tooManyActionRows⟩
  cases h with
  | tooManyActionRows h => exact h
  | component hc h => cases h

end Rules

section Stages

theorem firstComponentFault?_eq_none_iff_forall {components : List Component} {index : Nat} :
    firstComponentFault? index components = none ↔
      ∀ i c, components[i]? = some c → componentFault? (index + i) c = none := by
  induction components generalizing index with
  | nil => simp [firstComponentFault?]
  | cons first rest ih =>
    have hshift (i : Nat) : index + 1 + i = index + (i + 1) := by omega
    rw [firstComponentFault?, Option.orElse_eq_none, ih]
    simp only [hshift]
    constructor
    · rintro ⟨hfirst, hrest⟩ i c hc
      cases i with
      | zero =>
        obtain rfl : first = c := Option.some.inj hc
        exact hfirst
      | succ i => exact hrest i c hc
    · intro h
      exact ⟨h 0 first rfl, fun i c hc => h (i + 1) c hc⟩

/-- With nothing wrong about the whole, the components are looked at one after the other. -/
theorem KeepsBefore.components_spec (h : p.KeepsBefore 5) :
    (∃ fault, firstComponentFault? 0 p.components = some fault ∧ p.IsFirstFault fault) ∨
    (firstComponentFault? 0 p.components = none ∧ ∀ fault, ¬ p.Breaks fault) := by
  -- what is wrong is in a component, and not in one that nothing is found in
  have hsound {j : Nat} {d : Component} {other : Fault} (hnone : componentFault? j d = none)
      (hother : ComponentBreaks j d other) : False := by
    rcases componentFault?_spec j d with ⟨found, hfound, -⟩ | ⟨-, hno⟩
    · cases hnone.symm.trans hfound
    · exact hno other hother
  cases hfirst : firstComponentFault? 0 p.components with
  | none =>
    refine .inr ⟨rfl, fun other hother => ?_⟩
    obtain ⟨i, c, hc, hbreaks⟩ := hother.exists_component (h other hother)
    have hnone := firstComponentFault?_eq_none_iff_forall.1 hfirst i c hc
    rw [Nat.zero_add] at hnone
    exact hsound hnone hbreaks
  | some fault =>
    obtain ⟨i, c, hc, hfault, hbefore⟩ := firstComponentFault?_eq_some_iff.1 hfirst
    simp only [Nat.zero_add] at hfault hbefore
    rcases componentFault?_spec i c with ⟨found, hfound, hbreaks, hleast⟩ | ⟨hnone, -⟩
    · obtain rfl : found = fault := Option.some.inj (hfound.symm.trans hfault)
      refine .inl ⟨found, rfl, .component hc hbreaks, fun other hother => ?_⟩
      obtain ⟨j, d, hd, hother⟩ := hother.exists_component (h other hother)
      have hstage := hbreaks.stage_eq.trans hother.stage_eq.symm
      rcases Nat.lt_trichotomy i j with hlt | rfl | hlt
      · apply Fault.rank_le_of_position_lt hstage
        rw [hbreaks.position_eq, hother.position_eq]
        exact hlt
      · obtain rfl := Option.some.inj (hc.symm.trans hd)
        exact Fault.rank_le_of_kind_le hstage (hbreaks.position_eq.trans hother.position_eq.symm)
          (hleast other hother)
      · exact (hsound (hbefore j hlt d hd) hother).elim
    · cases hnone.symm.trans hfault

/-- The message is looked at rule by rule, and what is found first is its first fault. -/
theorem fault?_spec (p : Payload) :
    (∃ fault, p.fault? = some fault ∧ p.IsFirstFault fault) ∨
    (p.fault? = none ∧ ∀ fault, ¬ p.Breaks fault) := by
  -- each rule in turn: either it is the first that is broken, or the message keeps it as well
  have hkeeps : p.KeepsBefore 0 := fun fault _ => Nat.zero_le fault.stage
  unfold fault?
  by_cases hempty : p.isEmpty = true
  · have hfirst := hkeeps.isFirstFault (by decide) (breaks_empty_iff.2 hempty)
    exact .inl ⟨_, if_pos hempty, hfirst⟩
  replace hkeeps := hkeeps.succ (by decide) (mt breaks_empty_iff.1 hempty)
  by_cases hcontent : maxContentLength < p.contentLength
  · have hfirst := hkeeps.isFirstFault (by decide) (breaks_contentTooLong_iff.2 hcontent)
    rw [if_neg hempty]
    exact .inl ⟨_, if_pos hcontent, hfirst⟩
  replace hkeeps := hkeeps.succ (by decide) (mt breaks_contentTooLong_iff.1 hcontent)
  by_cases hembeds : maxEmbeds < p.embeds.length
  · have hfirst := hkeeps.isFirstFault (by decide) (breaks_tooManyEmbeds_iff.2 hembeds)
    rw [if_neg hempty, if_neg hcontent]
    exact .inl ⟨_, if_pos hembeds, hfirst⟩
  replace hkeeps := hkeeps.succ (by decide) (mt breaks_tooManyEmbeds_iff.1 hembeds)
  by_cases hstickers : maxStickers < p.stickers.length
  · have hfirst := hkeeps.isFirstFault (by decide) (breaks_tooManyStickers_iff.2 hstickers)
    rw [if_neg hempty, if_neg hcontent, if_neg hembeds]
    exact .inl ⟨_, if_pos hstickers, hfirst⟩
  replace hkeeps := hkeeps.succ (by decide) (mt breaks_tooManyStickers_iff.1 hstickers)
  rw [if_neg hempty, if_neg hcontent, if_neg hembeds, if_neg hstickers]
  by_cases hrows : maxActionRows < p.components.length
  · have hfirst := hkeeps.isFirstFault (by decide) (breaks_tooManyActionRows_iff.2 hrows)
    exact .inl ⟨_, if_pos hrows, hfirst⟩
  replace hkeeps := hkeeps.succ (by decide) (mt breaks_tooManyActionRows_iff.1 hrows)
  rw [if_neg hrows]
  exact hkeeps.components_spec

end Stages

theorem isDeliverable_iff : p.IsDeliverable ↔ ∀ fault, ¬ p.Breaks fault := by
  constructor
  · intro h fault hfault
    cases hfault with
    | empty hcontent hembeds hcomponents hstickers =>
      rcases h.nonempty with ⟨text, htext, hne⟩ | hne | hne | hne
      · exact hne (hcontent text htext)
      · exact hne hembeds
      · exact hne hcomponents
      · exact hne hstickers
    | contentTooLong htext hlong => exact Nat.not_lt.2 (h.content _ htext) hlong
    | tooManyEmbeds hmany => exact Nat.not_lt.2 h.embeds hmany
    | tooManyStickers hmany => exact Nat.not_lt.2 h.stickers hmany
    | tooManyActionRows hmany => exact Nat.not_lt.2 h.rows hmany
    | component hc hbreaks =>
      obtain ⟨parts, rfl, hpos, hfew, hflat⟩ := h.components _ (List.mem_of_getElem? hc)
      cases hbreaks with
      | outsideRow houtside => exact houtside _ rfl
      | emptyRow => exact absurd hpos (by decide)
      | tooMany hmany => exact Nat.not_lt.2 hfew hmany
      | nested hinner => exact hflat _ hinner _ rfl
  · intro h
    constructor
    · by_contra! hempty
      obtain ⟨hcontent, hembeds, hcomponents, hstickers⟩ := hempty
      exact h _ (.empty hcontent hembeds hcomponents hstickers)
    · exact fun text htext => Nat.not_lt.1 fun hlong => h _ (.contentTooLong htext hlong)
    · exact Nat.not_lt.1 fun hmany => h _ (.tooManyEmbeds hmany)
    · exact Nat.not_lt.1 fun hmany => h _ (.tooManyStickers hmany)
    · exact Nat.not_lt.1 fun hmany => h _ (.tooManyActionRows hmany)
    · -- a rule about components can be broken at any place of the list
      intro c hc
      obtain ⟨i, hi⟩ := List.getElem?_of_mem hc
      have hno (fault : Fault) (hfault : ComponentBreaks i c fault) : False :=
        h fault (.component hi hfault)
      by_cases hrow : ∃ parts, c = .row parts
      · obtain ⟨parts, rfl⟩ := hrow
        refine ⟨parts, rfl, List.length_pos_iff.2 ?_, ?_, ?_⟩
        · rintro rfl
          exact hno _ .emptyRow
        · exact Nat.not_lt.1 fun hmany => hno _ (.tooMany hmany)
        · rintro part hpart inner rfl
          exact hno _ (.nested hpart)
      · exact (hno _ (.outsideRow fun parts hparts => hrow ⟨parts, hparts⟩)).elim

/-- A message is accepted exactly if it can be delivered, and rejected with exactly the first of its
faults: of the whole, of the counts, then of the first component that anything is wrong with. -/
theorem validate_reports_first_fault (p : Payload) :
    (p.validate = .ok () ↔ p.IsDeliverable) ∧
    ∀ fault, p.validate = .error fault ↔ p.IsFirstFault fault := by
  rcases fault?_spec p with ⟨first, hfound, hfirst⟩ | ⟨hnone, hno⟩
  · refine ⟨?_, fun fault => ?_⟩
    · rw [validate_eq_ok_iff, isDeliverable_iff, hfound]
      exact ⟨nofun, fun h => (h first hfirst.1).elim⟩
    · rw [validate_eq_error_iff, hfound]
      constructor
      · rintro ⟨⟩
        exact hfirst
      · exact fun h => congrArg some (hfirst.eq h)
  · refine ⟨?_, fun fault => ?_⟩
    · rw [validate_eq_ok_iff, isDeliverable_iff]
      exact iff_of_true hnone hno
    · rw [validate_eq_error_iff, hnone]
      exact ⟨nofun, fun h => (hno fault h.1).elim⟩

/-- Of a row that is too long and holds a row, and a component outside of rows, the row comes first
and its length before what it holds. -/
example : validate ⟨none, [], [.row (List.replicate 6 (.row [])), .row [], .button
    (.toUrl "" "")], []⟩ = .error (.tooManyRowComponents 0 6 5) := by
  decide

end ViewCompanion.Payload
