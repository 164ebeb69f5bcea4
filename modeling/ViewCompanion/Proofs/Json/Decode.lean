import Mathlib.Data.List.Induction
import ViewCompanion.Json.Decode
import ViewCompanion.Proofs.Json.Written

namespace ViewCompanion

open Reading

namespace Decoded

variable {α β : Type} {x : Decoded α} {y : β}

theorem exists_of_bind {next : α → Decoded β} (h : x >>= next = .ok y) :
    ∃ a, x = .ok a ∧ next a = .ok y := by
  cases x with
  | error e => cases h
  | ok a => exact ⟨a, rfl, h⟩

theorem exists_of_map {f : α → β} (h : x.map f = .ok y) : ∃ a, x = .ok a ∧ f a = y := by
  cases x with
  | error e => cases h
  | ok a => exact ⟨a, rfl, Except.ok.inj h⟩

end Decoded

namespace Decoder

variable {α β : Type}

/-- The value, if its document of this depth may be opened. -/
def upTo (n depth : Nat) (x : α) : Decoded α :=
  if depth ≤ n then .ok x else .error .malformed

theorem upTo_zero (n : Nat) (x : α) : upTo n 0 x = .ok x :=
  if_pos (Nat.zero_le n)

theorem upTo_zero_succ (depth : Nat) (x : α) : upTo 0 (depth + 1) x = .error .malformed :=
  if_neg (Nat.not_succ_le_zero depth)

theorem upTo_succ_succ (n depth : Nat) (x : α) : upTo (n + 1) (depth + 1) x = upTo n depth x := by
  simp only [upTo, Nat.add_le_add_iff_right]

theorem upTo_map (n depth : Nat) (x : α) (f : α → β) :
    (upTo n depth x).map f = upTo n depth (f x) := by
  unfold upTo
  split <;> rfl

/-- Two parts may be opened if the deeper one may. -/
theorem upTo_bind (n d e : Nat) (x : α) (next : α → Decoded β) (y : β)
    (h : next x = upTo n e y) : upTo n d x >>= next = upTo n (max d e) y := by
  unfold upTo at h ⊢
  by_cases hd : d ≤ n
  · rw [if_pos hd]
    show next x = _
    simp only [h, Nat.max_le, hd, true_and]
  · -- the first part has failed, whatever the second may be
    have hmax : ¬ max d e ≤ n := fun hle => hd (Nat.le_trans (Nat.le_max_left d e) hle)
    rw [if_neg hd, if_neg hmax]
    rfl

/-- With `n` levels to open, `decode` gives back exactly what was encoded in at most `n` levels. -/
def InvertsAt (n : Nat) (decode : Decoder α) (encode : α → Json) : Prop :=
  ∀ x, decode n (ofJson (encode x)) = upTo n (encode x).depth x

theorem InvertsAt.map {n : Nat} {decode : Decoder α} {encode : α → Json}
    (h : InvertsAt n decode encode) (x : α) (f : α → β) :
    (decode n (ofJson (encode x))).map f = upTo n (encode x).depth (f x) := by
  rw [h x, upTo_map]

theorem string_invertsAt (n : Nat) : InvertsAt n string Json.string := fun s =>
  (upTo_zero n s).symm

theorem int64_invertsAt (n : Nat) : InvertsAt n int64 fun k => .number k.toInt := by
  intro k
  have hlow : -(Text.int64Bound : Int) ≤ k.toInt := k.le_toInt
  have hhigh : k.toInt ≤ (Text.int64Bound - 1 : Nat) := Int.le_of_lt_add_one k.toInt_lt
  show ((if _ then _ else _ : Decoded Int).map Int64.ofInt) = _
  rw [if_pos ⟨hlow, hhigh⟩]
  exact congrArg Except.ok (Int64.ofInt_toInt k)

theorem bool_invertsAt (n : Nat) : InvertsAt n bool Json.bool := fun b =>
  (upTo_zero n b).symm

theorem uint64_invertsAt (n : Nat) : InvertsAt n uint64 fun k => .number k.toNat := by
  intro k
  have hlow : (0 : Int) ≤ k.toNat := Int.natCast_nonneg _
  have hhigh : (k.toNat : Int) ≤ (UInt64.size - 1 : Nat) :=
    Int.ofNat_le.2 (Nat.le_sub_one_of_lt k.toNat_lt)
  show ((if _ then _ else _ : Decoded Int).map fun m => UInt64.ofNat m.toNat) = _
  rw [if_pos ⟨hlow, hhigh⟩]
  exact congrArg Except.ok UInt64.ofNat_toNat

theorem uint32_invertsAt (n : Nat) : InvertsAt n uint32 fun k => .number k.toNat := by
  intro k
  have hlow : (0 : Int) ≤ k.toNat := Int.natCast_nonneg _
  have hhigh : (k.toNat : Int) ≤ (UInt32.size - 1 : Nat) :=
    Int.ofNat_le.2 (Nat.le_sub_one_of_lt k.toNat_lt)
  show ((if _ then _ else _ : Decoded Int).map fun m => UInt32.ofNat m.toNat) = _
  rw [if_pos ⟨hlow, hhigh⟩]
  exact congrArg Except.ok UInt32.ofNat_toNat

theorem uint8_invertsAt (n : Nat) : InvertsAt n uint8 fun k => .number k.toNat := by
  intro k
  have hlow : (0 : Int) ≤ k.toNat := Int.natCast_nonneg _
  have hhigh : (k.toNat : Int) ≤ (UInt8.size - 1 : Nat) :=
    Int.ofNat_le.2 (Nat.le_sub_one_of_lt k.toNat_lt)
  show ((if _ then _ else _ : Decoded Int).map fun m => UInt8.ofNat m.toNat) = _
  rw [if_pos ⟨hlow, hhigh⟩]
  exact congrArg Except.ok UInt8.ofNat_toNat

/-- A value of its own is given back by the decoder that also accepts none. -/
theorem InvertsAt.some {n : Nat} {decode : Decoder α} {encode : α → Json}
    (h : InvertsAt n decode encode) {x : α} (hx : ofJson (encode x) ≠ .null) :
    option decode n (ofJson (encode x)) = upTo n (encode x).depth (some x) := by
  unfold option
  split
  · rename_i heq
    exact absurd heq hx
  · exact h.map x Option.some

theorem mapM_ofItems {n : Nat} {decode : Decoder α} {encode : α → Json}
    (h : InvertsAt n decode encode) (xs : List α) :
    (ofItems (xs.map encode)).mapM (decode n) = upTo n (Json.depthItems (xs.map encode)) xs := by
  induction xs with
  | nil => exact (upTo_zero n []).symm
  | cons x xs ih =>
    rw [List.map_cons, ofItems, List.mapM_cons, h x, Json.depthItems]
    apply upTo_bind
    rw [ih]
    exact upTo_map n _ xs (x :: ·)

/-- A list that may have been left out. -/
def presence (items : List α) : Option (List α) :=
  if items.isEmpty then none else some items

theorem presence_getD (items : List α) : (presence items).getD [] = items := by
  cases items <;> rfl

/-- A value that may have been left out, as a field that was met or not. -/
def given (value : Option α) : Option (Option α) :=
  value.map some

theorem given_getD (value : Option α) : (given value).getD none = value := by
  cases value <;> rfl

theorem list_invertsAt_zero (decode : Decoder α) (encode : α → Json) :
    InvertsAt 0 (list decode) fun xs => .array (xs.map encode) := fun xs =>
  (upTo_zero_succ _ xs).symm

theorem list_invertsAt_succ {n : Nat} {decode : Decoder α} {encode : α → Json}
    (h : InvertsAt n decode encode) :
    InvertsAt (n + 1) (list decode) fun xs => .array (xs.map encode) := fun xs =>
  (mapM_ofItems h xs).trans (upTo_succ_succ n _ xs).symm

theorem list_invertsAt {decode : Decoder α} {encode : α → Json}
    (h : ∀ n, InvertsAt n decode encode) (n : Nat) :
    InvertsAt n (list decode) fun xs => .array (xs.map encode) := by
  cases n with
  | zero => exact list_invertsAt_zero decode encode
  | succ n => exact list_invertsAt_succ (h n)

theorem document_eq {decode : Decoder α} {text : String} {r : Reading}
    (htext : ofText text = (r, true)) : document decode text = decode maxDepth r := by
  unfold document
  rw [htext]
  show (decode maxDepth r >>= fun value => Except.ok value) = _
  cases decode maxDepth r <;> rfl

theorem document_eq_ok_iff {decode : Decoder α} {text : String} {x : α} :
    document decode text = .ok x ↔ ∃ r, ofText text = (r, true) ∧ decode maxDepth r = .ok x := by
  constructor
  · intro h
    obtain ⟨r, ended, htext⟩ : ∃ r ended, ofText text = (r, ended) := ⟨_, _, rfl⟩
    unfold document at h
    rw [htext] at h
    obtain ⟨value, hvalue, h⟩ := Decoded.exists_of_bind h
    -- what stands behind the value decides only whether there is an answer
    cases ended with
    | false => cases h
    | true => exact ⟨r, htext, hvalue.trans h⟩
  · rintro ⟨r, htext, hr⟩
    rw [document_eq htext, hr]

theorem document_of_ofText {decode : Decoder α} {encode : α → Json}
    (h : ∀ n, InvertsAt n decode encode) {x : α} {text : String}
    (htext : ofText text = (ofJson (encode x), true)) :
    document decode text = upTo maxDepth (encode x).depth x := by
  rw [document_eq htext, h]

/-- A document that was written from a value gives it back, unless it is too deep. -/
theorem document_pretty {decode : Decoder α} {encode : α → Json}
    (h : ∀ n, InvertsAt n decode encode) {x : α} (hexact : (encode x).IsExact) :
    document decode (encode x).pretty = upTo maxDepth (encode x).depth x :=
  document_of_ofText h (ofText_pretty hexact)

theorem document_compact {decode : Decoder α} {encode : α → Json}
    (h : ∀ n, InvertsAt n decode encode) {x : α} (hexact : (encode x).IsExact) :
    document decode (encode x).compact = upTo maxDepth (encode x).depth x :=
  document_of_ofText h (ofText_compact hexact)

end Decoder

theorem Json.depthFields_append (fs gs : List (String × Json)) :
    depthFields (fs ++ gs) = max (depthFields fs) (depthFields gs) := by
  induction fs with
  | nil => exact (Nat.zero_max _).symm
  | cons f fs ih => rw [List.cons_append, depthFields, depthFields, ih, Nat.max_assoc]

theorem Json.depthFields_le {fs : List (String × Json)} {d : Nat} (h : ∀ f ∈ fs, depthField f ≤ d) :
    depthFields fs ≤ d := by
  induction fs with
  | nil => exact Nat.zero_le d
  | cons f fs ih =>
    rw [depthFields]
    exact Nat.max_le.2 ⟨h f List.mem_cons_self, ih fun g hg => h g (List.mem_cons_of_mem f hg)⟩

theorem Json.depthItems_map_string (texts : List String) :
    depthItems (texts.map Json.string) = 0 := by
  induction texts with
  | nil => rfl
  | cons text texts ih =>
    rw [List.map_cons, depthItems, ih]
    rfl

mutual

/-- What was written can be kept for later if it is not too deep. -/
theorem Reading.isStorable_ofJson (n : Nat) :
    ∀ v : Json, (ofJson v).isStorable n = decide (v.depth ≤ n)
  | .null | .bool _ | .number _ | .string _ => by
    simp only [ofJson, isStorable, Json.depth, Nat.zero_le, decide_true]
  | .array items => by
    cases n with
    | zero =>
      rw [ofJson, Json.depth, decide_eq_false (Nat.not_succ_le_zero _)]
      rfl
    | succ n =>
      simp only [ofJson, isStorable, Json.depth, Nat.add_le_add_iff_right]
      exact Reading.itemsStorable_ofItems n items
  | .object fields => by
    cases n with
    | zero =>
      rw [ofJson, Json.depth, decide_eq_false (Nat.not_succ_le_zero _)]
      rfl
    | succ n =>
      simp only [ofJson, isStorable, Json.depth, Nat.add_le_add_iff_right]
      exact Reading.fieldsStorable_ofFields n fields

theorem Reading.itemsStorable_ofItems (n : Nat) :
    ∀ vs : List Json, itemsStorable n (ofItems vs) = decide (Json.depthItems vs ≤ n)
  | [] => by simp only [ofItems, itemsStorable, Json.depthItems, Nat.zero_le, decide_true]
  | v :: vs => by
    simp only [ofItems, itemsStorable, Json.depthItems, Nat.max_le, Bool.decide_and,
      Reading.isStorable_ofJson n v, Reading.itemsStorable_ofItems n vs]

theorem Reading.fieldsStorable_ofFields (n : Nat) :
    ∀ fs : List (String × Json), fieldsStorable n (ofFields fs) = decide (Json.depthFields fs ≤ n)
  | [] => by simp only [ofFields, fieldsStorable, Json.depthFields, Nat.zero_le, decide_true]
  | (_, v) :: fs => by
    simp only [ofFields, ofField, fieldsStorable, fieldStorable, Json.depthFields, Json.depthField,
      Nat.max_le, Bool.decide_and, Reading.isStorable_ofJson n v,
      Reading.fieldsStorable_ofFields n fs]

end

theorem Reading.ofFields_append (fs gs : List (String × Json)) :
    ofFields (fs ++ gs) = ofFields fs ++ ofFields gs := by
  induction fs with
  | nil => rfl
  | cons f fs ih => rw [List.cons_append, ofFields, ofFields, ih, List.cons_append]

theorem Json.record_eq (fields : List (Option (String × Json))) :
    record fields = object (fields.flatMap Option.toList) := by
  have hfields : fields.filterMap id = fields.flatMap Option.toList := by
    induction fields with
    | nil => rfl
    | cons f fields ih =>
      cases f with
      | none => exact ih
      | some f => exact congrArg (f :: ·) ih
  rw [record, hfields]

namespace Record

open Decoder

variable {σ : Type} {slots : List (Slot σ)} {n : Nat} {fs gs : List (String × Json)} {s s' s'' : σ}

/-- Reading the fields leads from one state to the other, unless they are too deep. -/
def Reads (slots : List (Slot σ)) (n : Nat) (fs : List (String × Json)) (s s' : σ) : Prop :=
  ∀ rest, readFields slots (ofFields fs ++ rest) s =
    upTo n (Json.depthFields fs) s' >>= readFields slots rest

theorem Reads.nil : Reads slots n [] s s := fun rest => by
  rw [Json.depthFields, upTo_zero]
  rfl

theorem Reads.append (hf : Reads slots n fs s s') (hg : Reads slots n gs s' s'') :
    Reads slots n (fs ++ gs) s s'' := fun rest => by
  rw [ofFields_append, List.append_assoc, hf, Json.depthFields_append]
  unfold upTo
  by_cases hd : Json.depthFields fs ≤ n
  · rw [if_pos hd]
    simp only [Nat.max_le, hd, true_and]
    exact hg rest
  · have hmax : ¬ max (Json.depthFields fs) (Json.depthFields gs) ≤ n := fun hle =>
      hd (Nat.le_trans (Nat.le_max_left _ _) hle)
    rw [if_neg hd, if_neg hmax]
    rfl

/-- Fields are read in any order, if each of them can be read once it is new. -/
theorem Reads.of_nodup {κ : Type} {entry : κ → String × Json} {state : List κ → σ}
    (h : ∀ keys key, key ∉ keys → Reads slots n [entry key] (state keys) (state (keys ++ [key])))
    {keys : List κ} (hnodup : keys.Nodup) :
    Reads slots n (keys.map entry) (state []) (state keys) := by
  induction keys using List.reverseRecOn with
  | nil => exact .nil
  | append_singleton keys key ih =>
    obtain ⟨hkeys, -, hnew⟩ := List.nodup_append.1 hnodup
    have hkey : key ∉ keys := fun hmem => hnew key hmem key (List.mem_singleton_self key) rfl
    rw [List.map_append]
    exact (ih hkeys).append (h keys key hkey)

theorem Reads.cons {f : Option (String × Json)} {fields : List (Option (String × Json))}
    (hf : Reads slots n f.toList s s')
    (hfields : Reads slots n (fields.flatMap Option.toList) s' s'') :
    Reads slots n ((f :: fields).flatMap Option.toList) s s'' :=
  hf.append hfields

theorem Reads.single {key : String} {v : Json} {slot : Slot σ}
    (hfind : slots.find? (fun slot => slot.name == key) = some slot)
    (hempty : slot.filled s = false)
    (hread : slot.read (ofJson v) s = upTo n v.depth s') : Reads slots n [(key, v)] s s' := by
  intro rest
  have hdepth : Json.depthFields [(key, v)] = v.depth := Nat.max_zero _
  have hstep : readField slots s key (ofJson v) = slot.read (ofJson v) s := by
    rw [readField, hfind]
    simp only [hempty]
    rfl
  rw [hdepth, ← hread, ← hstep]
  rfl

variable {α : Type} {key : String} {slot : Slot σ}

theorem Reads.value {decode : Reading → Decoded α} {v : Json} {x : α} {set : α → σ → σ}
    (h : decode (ofJson v) = upTo n v.depth x)
    (hfind : slots.find? (fun slot => slot.name == key) = some slot)
    (hempty : slot.filled s = false)
    (hread : slot.read = fun r s => (decode r).map fun v => set v s) (hset : set x s = s') :
    Reads slots n [(key, v)] s s' := by
  apply Reads.single hfind hempty
  rw [hread, ← hset]
  show (decode (ofJson v)).map _ = _
  rw [h, upTo_map]

theorem Reads.field {decode : Decoder α} {encode : α → Json} {x : α} {set : α → σ → σ}
    (h : InvertsAt n decode encode)
    (hfind : slots.find? (fun slot => slot.name == key) = some slot)
    (hempty : slot.filled s = false)
    (hread : slot.read = fun r s => (decode n r).map fun v => set v s) (hset : set x s = s') :
    Reads slots n [(key, encode x)] s s' :=
  .value (h x) hfind hempty hread hset

theorem Reads.listField {decode : Decoder α} {encode : α → Json} {items : List α}
    {set : List α → σ → σ} (h : InvertsAt n (list decode) fun xs => .array (xs.map encode))
    (hfind : slots.find? (fun slot => slot.name == key) = some slot)
    (hempty : slot.filled s = false)
    (hread : slot.read = fun r s => (list decode n r).map fun v => set v s)
    (hset : (if items.isEmpty then s else set items s) = s') :
    Reads slots n (Json.listField key encode items).toList s s' := by
  unfold Json.listField
  split
  · rename_i hnil
    rw [if_pos hnil] at hset
    exact hset ▸ .nil
  · rename_i hnil
    rw [if_neg hnil] at hset
    exact .field (x := items) h hfind hempty hread hset

theorem Reads.optionField {decode : Decoder α} {encode : α → Json} {value : Option α}
    {set : Option α → σ → σ} (h : InvertsAt n decode encode)
    (hnull : ∀ x, ofJson (encode x) ≠ .null)
    (hfind : slots.find? (fun slot => slot.name == key) = some slot)
    (hempty : slot.filled s = false)
    (hread : slot.read = fun r s => (option decode n r).map fun v => set v s)
    (hset : (if value.isNone then s else set value s) = s') :
    Reads slots n (Json.optionField key encode value).toList s s' := by
  cases value with
  | none => exact hset ▸ .nil
  | some x =>
    apply Reads.single hfind hempty
    rw [hread, ← hset]
    show (option decode n (ofJson (encode x))).map _ = _
    rw [h.some (hnull x), upTo_map]
    rfl

theorem decode_of_reads (h : Reads slots n fs s s') (hall : firstMissing slots s' = none) :
    decode slots s (ofJson (.object fs)) = upTo n (Json.depthFields fs) s' := by
  have hread := h []
  rw [List.append_nil] at hread
  show (readFields slots (ofFields fs) s >>= _) = _
  rw [hread]
  unfold upTo
  split
  · have hend : readFields slots [] s' = .ok s' := rfl
    simp only [bind, Except.bind, hend, hall]
  · rfl

/-- A record is given back if its fields lead to a state that stands for it. -/
theorem decode_object {α : Type} {decode : Decoder α} {value : σ → α} {x : α}
    (hdecode : ∀ r, decode (n + 1) r = (Record.decode slots s r).map value)
    (h : Reads slots n fs s s') (hall : firstMissing slots s' = none) (hvalue : value s' = x) :
    decode (n + 1) (ofJson (.object fs)) = upTo (n + 1) (Json.object fs).depth x := by
  rw [hdecode, decode_of_reads h hall, upTo_map, hvalue, Json.depth, upTo_succ_succ]

end Record

section Keeps

variable {α σ : Type} {P : σ → Prop} {slots : List (Slot σ)} {s s' : σ}

/-- Whatever stands in the field, reading it keeps `P`. -/
def Slot.Keeps (P : σ → Prop) (slot : Slot σ) : Prop :=
  ∀ ⦃r : Reading⦄ ⦃s s' : σ⦄, P s → slot.read r s = .ok s' → P s'

theorem Slot.keeps_defaulted {name : String} {get : σ → Option α} {set : α → σ → σ}
    {decode : Reading → Decoded α} (h : ∀ r v s, decode r = .ok v → P s → P (set v s)) :
    (Slot.defaulted name get set decode).Keeps P := by
  intro r s s' hs hread
  obtain ⟨v, hv, rfl⟩ := Decoded.exists_of_map hread
  exact h r v s hv hs

namespace Record

theorem readField_keeps (h : ∀ slot ∈ slots, slot.Keeps P) {key : String} {r : Reading} (hs : P s)
    (hread : readField slots s key r = .ok s') : P s' := by
  unfold readField at hread
  split at hread
  · rename_i slot hfind
    split at hread
    · cases hread
    · exact h slot (List.mem_of_find?_eq_some hfind) hs hread
  · -- a field without a slot is passed over
    split at hread
    · exact Except.ok.inj hread ▸ hs
    · cases hread

theorem readFields_keeps (h : ∀ slot ∈ slots, slot.Keeps P)
    {fields : List (Option String × Reading)} (hs : P s)
    (hread : readFields slots fields s = .ok s') : P s' := by
  induction fields generalizing s with
  | nil => exact Except.ok.inj hread ▸ hs
  | cons field fields ih =>
    obtain ⟨_ | key, value⟩ := field
    · cases hread
    · obtain ⟨next, hfirst, hread⟩ := Decoded.exists_of_bind hread
      exact ih (readField_keeps h hs hfirst) hread

theorem readItems_keeps (h : ∀ slot ∈ slots, slot.Keeps P) {items : List Reading} (hs : P s)
    (hread : readItems slots items s = .ok s') : P s' := by
  induction slots generalizing items s with
  | nil =>
    cases items with
    | nil => exact Except.ok.inj hread ▸ hs
    | cons item items => cases hread
  | cons slot slots ih =>
    have hslots : ∀ slot ∈ slots, slot.Keeps P := fun other hother =>
      h other (List.mem_cons_of_mem slot hother)
    cases items with
    | nil =>
      rw [readItems] at hread
      split at hread
      · exact ih hslots hs hread
      · cases hread
    | cons item items =>
      obtain ⟨next, hfirst, hread⟩ := Decoded.exists_of_bind hread
      exact ih hslots (h slot List.mem_cons_self hs hfirst) hread

/-- What every slot keeps holds of each record that is read, as an object or as an array. -/
theorem decode_keeps (h : ∀ slot ∈ slots, slot.Keeps P) {r : Reading} (hs : P s)
    (hread : decode slots s r = .ok s') : P s' := by
  unfold decode at hread
  split at hread
  · obtain ⟨next, hfields, hread⟩ := Decoded.exists_of_bind hread
    split at hread
    · cases hread
    · exact Except.ok.inj hread ▸ readFields_keeps h hs hfields
  · exact readItems_keeps h hs hread
  · cases hread

end Record

end Keeps

end ViewCompanion
