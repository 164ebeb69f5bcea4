import Mathlib.Data.List.Basic
import ViewCompanion.Text.Numeral

namespace ViewCompanion.Text

theorem isAsciiDigit_iff {c : Char} : isAsciiDigit c = true ↔ 48 ≤ c.toNat ∧ c.toNat ≤ 57 := by
  unfold isAsciiDigit
  rw [Bool.and_eq_true, decide_eq_true_eq, decide_eq_true_eq, Char.le_def, Char.le_def,
    UInt32.le_iff_toNat_le, UInt32.le_iff_toNat_le]
  rfl

theorem digitValue?_of_isAsciiDigit {c : Char} (h : isAsciiDigit c = true) :
    digitValue? c = some (c.toNat - 48) := by
  unfold isAsciiDigit at h
  rw [digitValue?, if_pos h]
  rfl

theorem isAsciiDigit_of_mem_toDigits {n : Nat} {c : Char} (h : c ∈ Nat.toDigits 10 n) :
    isAsciiDigit c = true := by
  have hdigit : c.isDigit = true := Nat.isDigit_of_mem_toDigits (by decide) (by decide) h
  rw [isAsciiDigit_iff]
  simpa [Char.isDigit, UInt32.le_iff_toNat_le] using hdigit

theorem foldDigits_cons {c : Char} (h : isAsciiDigit c = true) (acc : Nat) (digits : List Char) :
    foldDigits 10 acc (c :: digits) = foldDigits 10 (acc * 10 + (c.toNat - '0'.toNat)) digits := by
  rw [foldDigits, List.foldl_cons, digitValue?_of_isAsciiDigit h]
  rfl

theorem foldDigits_eq_ofDigitChars {digits : List Char} (h : ∀ c ∈ digits, isAsciiDigit c = true)
    (acc : Nat) : foldDigits 10 acc digits = Nat.ofDigitChars 10 digits acc := by
  induction digits generalizing acc with
  | nil => rfl
  | cons c rest ih =>
    rw [foldDigits_cons (h c List.mem_cons_self), ih fun d hd => h d (List.mem_cons_of_mem _ hd),
      Nat.ofDigitChars_cons, Nat.mul_comm]

theorem decimalValue_toDigits (n : Nat) : decimalValue (Nat.toDigits 10 n) = n := by
  rw [decimalValue, foldDigits_eq_ofDigitChars fun c hc => isAsciiDigit_of_mem_toDigits hc,
    Nat.ofDigitChars_ten_toDigits]

section Reading

variable {limit acc : Nat} {digits : List Char}

theorem le_foldDigits (acc : Nat) (digits : List Char) : acc ≤ foldDigits 10 acc digits := by
  induction digits generalizing acc with
  | nil => exact Nat.le_refl acc
  | cons c rest ih =>
    have hstep : acc ≤ acc * 10 + (digitValue? c).getD 0 := by omega
    exact Nat.le_trans hstep (ih _)

theorem readDigits_eq_ok (hdigits : ∀ c ∈ digits, isAsciiDigit c = true)
    (h : foldDigits 10 acc digits < limit) :
    readDigits limit acc digits = .ok (foldDigits 10 acc digits) := by
  induction digits generalizing acc with
  | nil => rfl
  | cons c rest ih =>
    have hc : isAsciiDigit c = true := hdigits c List.mem_cons_self
    rw [foldDigits_cons hc] at h ⊢
    rw [readDigits, if_pos hc]
    simp only [if_pos (Nat.lt_of_le_of_lt (le_foldDigits _ rest) h)]
    exact ih (fun d hd => hdigits d (List.mem_cons_of_mem _ hd)) h

theorem readDigits_eq_ok_iff {n : Nat} (hacc : acc < limit) : readDigits limit acc digits = .ok n ↔
    (∀ c ∈ digits, isAsciiDigit c = true) ∧ foldDigits 10 acc digits = n ∧ n < limit := by
  constructor
  · intro h
    induction digits generalizing acc with
    | nil =>
      obtain rfl := Except.ok.inj h
      exact ⟨nofun, rfl, hacc⟩
    | cons c rest ih =>
      rw [readDigits] at h
      split at h
      · rename_i hc
        dsimp only at h
        split at h
        · rename_i hnext
          obtain ⟨hrest, hvalue, hn⟩ := ih hnext h
          exact ⟨List.forall_mem_cons.2 ⟨hc, hrest⟩, (foldDigits_cons hc acc rest).trans hvalue, hn⟩
        · cases h
      · cases h
  · rintro ⟨hdigits, rfl, hlimit⟩
    exact readDigits_eq_ok hdigits hlimit

theorem readBelow_of_digits (hne : digits ≠ []) (hdigits : ∀ c ∈ digits, isAsciiDigit c = true) :
    readBelow limit digits = readDigits limit 0 digits := by
  unfold readBelow
  split
  · exact absurd rfl hne
  · exact absurd (hdigits '+' List.mem_cons_self) (by decide)
  · exact absurd (hdigits '+' List.mem_cons_self) (by decide)
  · rfl

theorem readBelow_toDigits {n : Nat} (h : n < limit) :
    readBelow limit (Nat.toDigits 10 n) = .ok n := by
  have hdigits : ∀ c ∈ Nat.toDigits 10 n, isAsciiDigit c = true :=
    fun c hc => isAsciiDigit_of_mem_toDigits hc
  have hvalue : foldDigits 10 0 (Nat.toDigits 10 n) = n := decimalValue_toDigits n
  rw [readBelow_of_digits Nat.toDigits_ne_nil hdigits, readDigits_eq_ok hdigits (by rwa [hvalue]),
    hvalue]

/-- An optional plus sign, and then one or more digits that stand for `n`. -/
def Denotes (text : List Char) (n : Nat) : Prop :=
  ∃ digits, (text = digits ∨ text = '+' :: digits) ∧ digits ≠ [] ∧
    (∀ c ∈ digits, isAsciiDigit c = true) ∧ Nat.ofDigitChars 10 digits 0 = n

/-- A text is read as the number that it denotes, if that is below the limit. -/
theorem readBelow_eq_ok_iff {text : List Char} {n : Nat} (hlimit : 0 < limit) :
    readBelow limit text = .ok n ↔ Denotes text n ∧ n < limit := by
  constructor
  · -- whichever text stands behind the sign, it is read as digits
    have hdenotes : ∀ {digits}, (text = digits ∨ text = '+' :: digits) → digits ≠ [] →
        readDigits limit 0 digits = .ok n → Denotes text n ∧ n < limit := by
      intro digits htext hne h
      obtain ⟨hdigits, hvalue, hn⟩ := (readDigits_eq_ok_iff hlimit).1 h
      rw [foldDigits_eq_ofDigitChars hdigits] at hvalue
      exact ⟨⟨digits, htext, hne, hdigits, hvalue⟩, hn⟩
    intro h
    unfold readBelow at h
    split at h
    · cases h
    · cases h
    · rename_i hne
      exact hdenotes (.inr rfl) hne h
    · rename_i hne _ _
      exact hdenotes (.inl rfl) hne h
  · rintro ⟨⟨digits, htext, hne, hdigits, rfl⟩, hn⟩
    have hread : readBelow limit text = readDigits limit 0 digits := by
      rcases htext with rfl | rfl
      · exact readBelow_of_digits hne hdigits
      · cases digits with
        | nil => exact absurd rfl hne
        | cons c rest => rfl
    rw [hread, readDigits_eq_ok_iff hlimit, foldDigits_eq_ofDigitChars hdigits]
    exact ⟨hdigits, rfl, hn⟩

end Reading

theorem digitChar_of_isAsciiDigit {c : Char} (h : isAsciiDigit c = true) :
    Nat.digitChar (c.toNat - '0'.toNat) = c := by
  obtain ⟨hlow, hhigh⟩ := isAsciiDigit_iff.1 h
  have hzero : '0'.toNat = 48 := rfl
  apply Char.toNat_inj.1
  rw [Nat.toNat_digitChar_of_lt_ten (by omega)]
  omega

theorem toDigits_append {n : Nat} {digits : List Char} (hn : 0 < n)
    (hdigits : ∀ c ∈ digits, isAsciiDigit c = true) :
    Nat.toDigits 10 n ++ digits = Nat.toDigits 10 (foldDigits 10 n digits) := by
  induction digits generalizing n with
  | nil => exact List.append_nil _
  | cons c rest ih =>
    have hc : isAsciiDigit c = true := hdigits c List.mem_cons_self
    have hdigit : c.toNat - '0'.toNat < 10 := by
      obtain ⟨hlow, hhigh⟩ := isAsciiDigit_iff.1 hc
      have hzero : '0'.toNat = 48 := rfl
      omega
    have hlast : Nat.toDigits 10 n ++ [c] = Nat.toDigits 10 (n * 10 + (c.toNat - '0'.toNat)) := by
      rw [Nat.mul_comm, ← Nat.toDigits_append_toDigits (by decide) hn hdigit,
        Nat.toDigits_of_lt_base hdigit, digitChar_of_isAsciiDigit hc]
    rw [foldDigits_cons hc, ← ih (by omega) fun d hd => hdigits d (List.mem_cons_of_mem c hd),
      ← hlast, List.append_assoc]
    rfl

/-- Digits without a needless zero at the front are those of their number. -/
theorem toDigits_decimalValue {c : Char} {rest : List Char}
    (hdigits : ∀ d ∈ c :: rest, isAsciiDigit d = true) (hfront : rest = [] ∨ c ≠ '0') :
    Nat.toDigits 10 (decimalValue (c :: rest)) = c :: rest := by
  have hc : isAsciiDigit c = true := hdigits c List.mem_cons_self
  obtain ⟨hlow, hhigh⟩ := isAsciiDigit_iff.1 hc
  have hzero : '0'.toNat = 48 := rfl
  have hfirst : Nat.toDigits 10 (c.toNat - '0'.toNat) = [c] := by
    rw [Nat.toDigits_of_lt_base (by omega), digitChar_of_isAsciiDigit hc]
  rw [decimalValue, foldDigits_cons hc, Nat.zero_mul, Nat.zero_add]
  rcases hfront with rfl | hne
  · exact hfirst
  · have hpos : 0 < c.toNat - '0'.toNat := by
      have hchar : c.toNat ≠ 48 := fun heq => hne (Char.toNat_inj.1 heq)
      omega
    rw [← toDigits_append hpos fun d hd => hdigits d (List.mem_cons_of_mem c hd), hfirst]
    rfl

/-- Only zero begins with the digit zero. -/
theorem head?_toDigits_ne_zero {n : Nat} (h : n ≠ 0) : (Nat.toDigits 10 n).head? ≠ some '0' := by
  induction n using Nat.strongRecOn with
  | ind n ih =>
    by_cases hn : n < 10
    · rw [Nat.toDigits_of_lt_base hn, List.head?_cons]
      intro heq
      have hvalue : n.digitChar.toNat = 48 + n := Nat.toNat_digitChar_of_lt_ten hn
      rw [Option.some.inj heq] at hvalue
      have hzero : '0'.toNat = 48 := rfl
      omega
    · rw [Nat.toDigits_of_base_le (by decide) (Nat.le_of_not_lt hn),
        List.head?_append_of_ne_nil _ Nat.toDigits_ne_nil]
      exact ih (n / 10) (by omega) (by omega)

end ViewCompanion.Text
