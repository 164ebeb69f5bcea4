import ViewCompanion.Proofs.Json.Literal
import ViewCompanion.Proofs.Message.RoundTrip

namespace ViewCompanion.Snowflake

open Reading Decoder

variable {text : String} {s : Snowflake} {k : Int}

theorem eq_iff_toNat_eq {n : Nat} (h : n < UInt64.size) :
    Snowflake.mk (UInt64.ofNat n) = s ↔ n = s.id.toNat := by
  rw [Snowflake.mk.injEq, ← UInt64.toNat_inj, UInt64.toNat_ofNat_of_lt' h]

theorem ofText_eq_ok_iff : ofText text = .ok s ↔ Text.Denotes text.toList s.id.toNat := by
  have hlimit : 0 < UInt64.size := by decide
  unfold ofText
  constructor
  · intro h
    cases hread : Text.readBelow UInt64.size text.toList with
    | error reason => rw [hread] at h; cases h
    | ok n =>
      rw [hread] at h
      obtain ⟨hn, hbelow⟩ := (Text.readBelow_eq_ok_iff hlimit).1 hread
      obtain rfl := (eq_iff_toNat_eq hbelow).1 (Except.ok.inj h)
      exact hn
  · intro h
    rw [(Text.readBelow_eq_ok_iff hlimit).2 ⟨h, s.id.toNat_lt⟩]
    exact congrArg Except.ok ((eq_iff_toNat_eq s.id.toNat_lt).2 rfl)

theorem decode_string_eq_ok_iff {n : Nat} :
    decode n (.string text) = .ok s ↔ ofText text = .ok s := by
  show (ofText text).mapError DecodeError.numeral = .ok s ↔ _
  cases ofText text with
  | error reason => exact ⟨nofun, nofun⟩
  | ok read => exact ⟨fun h => congrArg _ (Except.ok.inj h), fun h => congrArg _ (Except.ok.inj h)⟩

theorem decode_integer_eq_ok_iff {n : Nat} (hk : IsExact k) :
    decode n (.integer k) = .ok s ↔ k = s.id.toNat := by
  show (if 0 ≤ k then _ else _) = Except.ok s ↔ _
  split
  · rename_i hsign
    obtain ⟨m, rfl⟩ := Int.eq_ofNat_of_zero_le hsign
    rw [Except.ok.injEq, Int.toNat_natCast, eq_iff_toNat_eq (Int.ofNat_lt.1 hk.2), Int.ofNat_inj]
  · rename_i hsign
    refine ⟨nofun, fun hvalue => ?_⟩
    exact absurd (hvalue ▸ Int.natCast_nonneg _) hsign

/-- A document is an id if it holds the digits of the id, as a string or as a number. -/
theorem document_decode_eq_ok_iff : document decode text = .ok s ↔
    (∃ digits, IsStringText text digits ∧ Text.Denotes digits.toList s.id.toNat) ∨
      IsNumberText text s.id.toNat := by
  rw [document_eq_ok_iff]
  constructor
  · rintro ⟨r, htext, hr⟩
    cases r with
    | string digits =>
      rw [decode_string_eq_ok_iff, ofText_eq_ok_iff] at hr
      exact .inl ⟨digits, ofText_eq_string_iff.1 htext, hr⟩
    | integer k =>
      obtain ⟨hk, hnumber⟩ := ofText_eq_integer_iff.1 htext
      obtain rfl := (decode_integer_eq_ok_iff hk).1 hr
      exact .inr hnumber
    | _ => cases hr
  · rintro (⟨digits, htext, hdigits⟩ | htext)
    · exact ⟨.string digits, ofText_eq_string_iff.2 htext,
        decode_string_eq_ok_iff.2 (ofText_eq_ok_iff.2 hdigits)⟩
    · have hk : IsExact s.id.toNat := Json.isExact_number s.id.toNat_lt
      exact ⟨.integer s.id.toNat, ofText_eq_integer_iff.2 ⟨hk, htext⟩,
        (decode_integer_eq_ok_iff hk).2 rfl⟩

/-- What is said of an id by its number is said of the numbers of 64 bits. -/
theorem exists_toNat_eq_iff {p : Snowflake → Prop} {q : Nat → Prop} {n : Nat}
    (h : ∀ s, p s ↔ q s.id.toNat) : (∃ s, p s ∧ s.id.toNat = n) ↔ q n ∧ n < UInt64.size := by
  constructor
  · rintro ⟨s, hs, rfl⟩
    exact ⟨(h s).1 hs, s.id.toNat_lt⟩
  · rintro ⟨hn, hlimit⟩
    have hvalue : (UInt64.ofNat n).toNat = n := UInt64.toNat_ofNat_of_lt' hlimit
    exact ⟨⟨UInt64.ofNat n⟩, (h _).2 (hvalue.symm ▸ hn), hvalue⟩

/-- Ids are read from exactly the digits of the numbers of 64 bits, and their own digits give them
back; a document is an id if it is a string with such digits, or one of these numbers. -/
theorem reads_exactly_ids :
    (∀ (text : String) (n : Nat), (∃ s, ofText text = .ok s ∧ s.id.toNat = n) ↔
      Text.Denotes text.toList n ∧ n < UInt64.size) ∧
    (∀ s : Snowflake, ofText s.text = .ok s) ∧
    ∀ (text : String) (n : Nat), (∃ s, document decode text = .ok s ∧ s.id.toNat = n) ↔
      ((∃ digits, IsStringText text digits ∧ Text.Denotes digits.toList n) ∨
        IsNumberText text n) ∧ n < UInt64.size := by
  refine ⟨fun text n => ?_, ofText_text, fun text n => ?_⟩
  · apply exists_toNat_eq_iff
    exact fun s => ofText_eq_ok_iff
  · apply exists_toNat_eq_iff
    exact fun s => document_decode_eq_ok_iff

/-- Zeros at the front do not make a number too large. -/
example : ofText "+00018446744073709551615" = .ok ⟨18446744073709551615⟩ := by
  decide

end ViewCompanion.Snowflake
