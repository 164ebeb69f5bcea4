import ViewCompanion.Proofs.Json.Spelling
import ViewCompanion.Proofs.Text.Numeral

namespace ViewCompanion.Reading

/-- No text of a number goes on with `s`. -/
def EndsNumber (s : List Char) : Prop :=
  ∀ c, s.head? = some c → Text.isAsciiDigit c = false ∧ c ≠ '.' ∧ c ≠ 'e' ∧ c ≠ 'E'

theorem takeDigits_append {digits rest : List Char}
    (hdigits : ∀ c ∈ digits, Text.isAsciiDigit c = true) (hrest : EndsNumber rest) :
    takeDigits (digits ++ rest) = (digits, rest) := by
  have hend : rest.takeWhile Text.isAsciiDigit = [] ∧ rest.dropWhile Text.isAsciiDigit = rest := by
    cases rest with
    | nil => exact ⟨rfl, rfl⟩
    | cons c rest =>
      have hc : Text.isAsciiDigit c = false := (hrest c rfl).1
      rw [List.takeWhile_cons, List.dropWhile_cons, hc]
      exact ⟨rfl, rfl⟩
  rw [takeDigits, List.takeWhile_append_of_pos hdigits, List.dropWhile_append_of_pos hdigits,
    hend.1, hend.2, List.append_nil]

theorem readWhole_toDigits {rest : List Char} (n : Nat) (hrest : EndsNumber rest) :
    readWhole (Nat.toDigits 10 n ++ rest) = some (Nat.toDigits 10 n, rest) := by
  have htake : takeDigits (Nat.toDigits 10 n ++ rest) = (Nat.toDigits 10 n, rest) :=
    takeDigits_append (fun c hc => Text.isAsciiDigit_of_mem_toDigits hc) hrest
  rw [readWhole, htake]
  split
  · rename_i heq
    exact absurd (congrArg Prod.fst heq) Nat.toDigits_ne_nil
  · rename_i c digits tail heq
    have hdigits : Nat.toDigits 10 n = '0' :: c :: digits := congrArg Prod.fst heq
    -- only the number zero begins with that digit
    by_cases hn : n = 0
    · rw [hn, Nat.toDigits_zero] at hdigits
      cases hdigits
    · exact absurd (by rw [hdigits]; rfl) (Text.head?_toDigits_ne_zero hn)
  · rfl

theorem readFraction_of_endsNumber {rest : List Char} (h : EndsNumber rest) :
    readFraction rest = some (none, rest) := by
  unfold readFraction
  split
  · exact absurd rfl (h '.' rfl).2.1
  · rfl

theorem readExponent_of_endsNumber {rest : List Char} (h : EndsNumber rest) :
    readExponent rest = some (none, rest) := by
  cases rest with
  | nil => rfl
  | cons c rest =>
    obtain ⟨-, -, he, hE⟩ := h c rfl
    have hneither : ¬ (c == 'e' || c == 'E') = true := by simp [he, hE]
    exact if_neg hneither

def IsExact (n : Int) : Prop :=
  -(Text.int64Bound : Int) ≤ n ∧ n < UInt64.size

def BeginsNumber (c : Char) : Prop :=
  c = '-' ∨ Text.isAsciiDigit c = true

theorem exists_cons_toDigits (n : Nat) :
    ∃ c cs, Nat.toDigits 10 n = c :: cs ∧ Text.isAsciiDigit c = true := by
  obtain ⟨c, cs, hcs⟩ := List.exists_cons_of_ne_nil (Nat.toDigits_ne_nil : Nat.toDigits 10 n ≠ [])
  exact ⟨c, cs, hcs, Text.isAsciiDigit_of_mem_toDigits (hcs ▸ List.mem_cons_self)⟩

theorem exists_cons_numberText (n : Int) : ∃ c s, Json.numberText n = c :: s ∧ BeginsNumber c := by
  unfold Json.numberText
  split
  · exact ⟨'-', _, rfl, .inl rfl⟩
  · obtain ⟨c, cs, hcs, hc⟩ := exists_cons_toDigits n.natAbs
    exact ⟨c, cs, hcs, .inr hc⟩

theorem readNumeral_numberText {n : Int} {rest : List Char} (hrest : EndsNumber rest) :
    readNumeral (Json.numberText n ++ rest) =
      some (⟨decide (n < 0), Nat.toDigits 10 n.natAbs, none, none⟩, rest) := by
  have hwhole := readWhole_toDigits n.natAbs hrest
  unfold Json.numberText
  by_cases hn : n < 0
  · rw [if_pos hn, List.cons_append, readNumeral]
    simp only [hwhole, readFraction_of_endsNumber hrest, readExponent_of_endsNumber hrest, hn,
      Option.bind_eq_bind, Option.bind_some, decide_true]
    rfl
  · obtain ⟨c, cs, hcs, hc⟩ := exists_cons_toDigits n.natAbs
    rw [if_neg hn, readNumeral]
    · simp only [hwhole, readFraction_of_endsNumber hrest, readExponent_of_endsNumber hrest, hn,
        Option.bind_eq_bind, Option.bind_some, decide_false]
      rfl
    · intro s heq
      rw [hcs] at heq
      obtain rfl : c = '-' := List.head_eq_of_cons_eq heq
      exact absurd hc (by decide)

theorem reading_of_isExact {n : Int} (h : IsExact n) :
    Numeral.reading ⟨decide (n < 0), Nat.toDigits 10 n.natAbs, none, none⟩ = .integer n := by
  obtain ⟨hlow, hhigh⟩ := h
  simp only [Numeral.reading, Text.decimalValue_toDigits]
  by_cases hn : n < 0
  · have hzero : n.natAbs ≠ 0 := by omega
    have hbound : n.natAbs ≤ Text.int64Bound := by omega
    have hvalue : -(n.natAbs : Int) = n := by omega
    rw [if_pos (decide_eq_true hn), if_neg hzero, if_pos hbound, hvalue]
  · have hbound : n.natAbs < UInt64.size := by omega
    have hvalue : (n.natAbs : Int) = n := by omega
    rw [if_neg (by simpa using hn), if_pos hbound, hvalue]

section Texts

variable {s digits rest : List Char} {k : Int}

theorem of_takeDigits (h : takeDigits s = (digits, rest)) :
    (∀ c ∈ digits, Text.isAsciiDigit c = true) ∧ s = digits ++ rest := by
  obtain ⟨rfl, rfl⟩ := Prod.mk.inj h
  exact ⟨List.all_eq_true.1 List.all_takeWhile, List.takeWhile_append_dropWhile.symm⟩

theorem of_readWhole (h : readWhole s = some (digits, rest)) :
    Nat.toDigits 10 (Text.decimalValue digits) = digits ∧ s = digits ++ rest := by
  unfold readWhole at h
  split at h
  · cases h
  · cases h
  · rename_i hnil hzero
    obtain ⟨hdigits, hs⟩ := of_takeDigits (Option.some.inj h)
    refine ⟨?_, hs⟩
    cases digits with
    | nil => exact absurd (Option.some.inj h) (hnil rest)
    | cons c others =>
      apply Text.toDigits_decimalValue hdigits
      cases others with
      | nil => exact .inl rfl
      | cons d others =>
        refine .inr fun hfront => hzero d others rest ?_
        rw [← hfront]
        exact Option.some.inj h

theorem eq_of_readFraction (h : readFraction s = some (none, rest)) : s = rest := by
  unfold readFraction at h
  split at h
  · split at h <;> cases h
  · exact (Prod.mk.inj (Option.some.inj h)).2

theorem readExponentDigits_ne (negative : Bool) :
    readExponentDigits negative s ≠ some (none, rest) := by
  unfold readExponentDigits
  split <;> nofun

theorem eq_of_readExponent (h : readExponent s = some (none, rest)) : s = rest := by
  unfold readExponent at h
  split at h
  · split at h
    · -- behind its mark an exponent has digits
      split at h <;> exact absurd h (readExponentDigits_ne _)
    · exact (Prod.mk.inj (Option.some.inj h)).2
  · exact (Prod.mk.inj (Option.some.inj h)).2

theorem reading_cases (n : Numeral) :
    (∃ k, n.reading = .integer k) ∨ ∃ finite, n.reading = .real finite := by
  unfold Numeral.reading
  dsimp only
  repeat' split
  all_goals first | exact .inl ⟨_, rfl⟩ | exact .inr ⟨_, rfl⟩

theorem of_reading_eq_integer {n : Numeral} (h : n.reading = .integer k) :
    n.fraction = none ∧ n.exponent = none ∧ IsExact k ∧ n.negative = decide (k < 0) ∧
      k.natAbs = Text.decimalValue n.whole := by
  obtain ⟨negative, whole, fraction, exponent⟩ := n
  have hsize : (0 : Int) < UInt64.size := by decide
  simp only [Numeral.reading] at h ⊢
  generalize Text.decimalValue whole = value at h ⊢
  split at h
  · split at h
    · -- a number with a sign is not zero, and not below the least signed one
      rename_i hsign
      split at h
      · cases h
      · rename_i hzero
        split at h
        · rename_i hbound
          obtain rfl := Reading.integer.inj h
          have hneg : -(value : Int) < 0 := by omega
          exact ⟨rfl, rfl, ⟨by omega, by omega⟩, hsign.trans (decide_eq_true hneg).symm, by omega⟩
        · cases h
    · rename_i hsign
      split at h
      · rename_i hbound
        obtain rfl := Reading.integer.inj h
        have hneg : ¬ (value : Int) < 0 := by omega
        have hkept : IsExact value := ⟨by omega, by omega⟩
        exact ⟨rfl, rfl, hkept, (Bool.eq_false_iff.2 hsign).trans (decide_eq_false hneg).symm,
          Int.natAbs_natCast value⟩
      · cases h
  · cases h

theorem of_readNumeral {n : Numeral} (h : readNumeral s = some (n, rest))
    (hfraction : n.fraction = none) (hexponent : n.exponent = none) :
    Nat.toDigits 10 (Text.decimalValue n.whole) = n.whole ∧
      s = (if n.negative then '-' :: n.whole else n.whole) ++ rest := by
  unfold readNumeral at h
  split at h
  rename_i negative t hsign
  obtain ⟨⟨whole, t⟩, hwhole, h⟩ := Option.bind_eq_some_iff.1 h
  obtain ⟨⟨fraction, u⟩, hfrac, h⟩ := Option.bind_eq_some_iff.1 h
  obtain ⟨⟨exponent, v⟩, hexp, h⟩ := Option.bind_eq_some_iff.1 h
  obtain ⟨rfl, rfl⟩ := Prod.mk.inj (Option.some.inj h)
  dsimp only at hfraction hexponent
  subst hfraction hexponent
  obtain rfl := eq_of_readExponent hexp
  obtain rfl := eq_of_readFraction hfrac
  obtain ⟨hdigits, rfl⟩ := of_readWhole hwhole
  refine ⟨hdigits, ?_⟩
  split at hsign
  · obtain ⟨rfl, rfl⟩ := Prod.mk.inj hsign
    rfl
  · obtain ⟨rfl, rfl⟩ := Prod.mk.inj hsign
    rfl

/-- Only the text of a whole number is read as one that is kept. -/
theorem of_reading_integer {n : Numeral} (hread : readNumeral s = some (n, rest))
    (hn : n.reading = .integer k) : IsExact k ∧ s = Json.numberText k ++ rest := by
  obtain ⟨hfraction, hexponent, hk, hsign, hvalue⟩ := of_reading_eq_integer hn
  obtain ⟨hdigits, rfl⟩ := of_readNumeral hread hfraction hexponent
  refine ⟨hk, ?_⟩
  rw [Json.numberText, hvalue, hdigits, hsign]
  simp only [decide_eq_true_eq]

end Texts

end ViewCompanion.Reading
