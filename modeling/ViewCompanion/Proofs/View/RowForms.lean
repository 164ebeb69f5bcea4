import ViewCompanion.Proofs.Source.Number
import ViewCompanion.Proofs.View.Accepted

namespace ViewCompanion

open Source

namespace Source

/-- Whether a list is one literal with a comma behind it. -/
def isOpenList : List Token → Bool
  | [.literal _, .punct ',' _] => true
  | _ => false

/-- Whether an attribute is written in a form that a derive does not take for a row: `= value`, or
a list with an attribute or a minus in front, or with a comma after its literal. -/
def Meta.isLoose : Meta → Bool
  | .word => false
  | .value _ => true
  | .list tokens => isOp ['#'] tokens || isOp ['-'] tokens || isOpenList tokens

theorem Literal.ofText_ne_negative {value : Nat} {suffix : List Char} {text : String} (s : String) :
    Literal.ofText s ≠ .int true value suffix text := by
  unfold Literal.ofText
  dsimp only
  split
  · simp
  · split <;> simp

end Source

section Arguments

variable {r : Resolver} {home : String} {n : UInt32}

theorem eq_int_of_rowIndex {args : List Argument} (h : rowIndex args = .ok n) :
    ∃ k : Int64, args = [.int k] ∧ 0 ≤ k.toInt ∧ k.toInt < UInt32.size ∧
      n = UInt32.ofNat k.toInt.toNat := by
  unfold rowIndex at h
  split at h
  · cases h
  · rename_i k
    split at h
    · rename_i hk
      cases h
      exact ⟨k, rfl, hk.1, hk.2, rfl⟩
    · cases h
  · cases h
  · cases h

theorem Resolver.isNumber_of_argument {tokens : List Token} {shape : Shape} {k : Int64}
    (h : r.argument home (.ofShape tokens shape) = .int k) : shape.isNumber = true := by
  cases shape with
  | literal l =>
    cases l with
    | int => rfl
    | str => cases h
    | bool => cases h
    | other => cases h
  | negated => rfl
  | _ => cases h

/-- A literal that stands alone is the same row for a derive. -/
theorem rowIndex_of_literal {a : Attribute} {s : String} (hcontent : a.content = .list [.literal s])
    (h : rowIndex (r.arguments home a.content) = .ok n) : a.rowIndex = .ok n := by
  obtain ⟨k, hk, hnonneg, hsize, rfl⟩ := eq_int_of_rowIndex h
  rw [hcontent, Resolver.arguments, valuesOf?_literal] at hk
  have hargument : Resolver.literalArgument (.ofText s) = .int k := List.head_eq_of_cons_eq hk
  unfold Attribute.rowIndex
  rw [hcontent]
  dsimp only [literal?]
  cases hs : Literal.ofText s with
  | int negative value suffix text =>
    cases negative with
    | true => exact absurd hs (Literal.ofText_ne_negative s)
    | false =>
      rw [hs] at hargument
      simp only [Resolver.literalArgument, Text.int64Bound, Bool.false_eq_true, if_false]
        at hargument
      split at hargument
      · rename_i hbound
        cases hargument
        rw [Int64.toInt_ofInt_of_le (by omega) (by omega)] at hsize ⊢
        dsimp only
        rw [if_neg (by simp), if_pos (by omega), Int.toNat_natCast]
      · cases hargument
  | _ => rw [hs] at hargument; cases hargument

theorem exists_value_of_rowIndex {tokens : List Token}
    (h : rowIndex (r.arguments home (.list tokens)) = .ok n) :
    ∃ v k, valuesOf? tokens = some [v] ∧ r.argument home v = .int k := by
  obtain ⟨k, hk, -⟩ := eq_int_of_rowIndex h
  rw [Resolver.arguments] at hk
  split at hk
  · rename_i values hvalues
    obtain ⟨v, rfl, hv⟩ := List.map_eq_singleton_iff.1 hk
    exact ⟨v, k, hvalues, hv⟩
  · cases hk

theorem eq_literal_of_rowIndex {tokens : List Token} (hstrict : (Meta.list tokens).isLoose = false)
    (h : rowIndex (r.arguments home (.list tokens)) = .ok n) : ∃ s, tokens = [.literal s] := by
  obtain ⟨v, k, hvalues, hargument⟩ := exists_value_of_rowIndex h
  obtain ⟨depth, shape, c', hvalue, rfl, hlast⟩ := exists_of_valuesOf?_singleton hvalues
  have hnumber := Resolver.isNumber_of_argument hargument
  simp only [Meta.isLoose, Bool.or_eq_false_iff] at hstrict
  obtain ⟨⟨hplain, hminus⟩, hopen⟩ := hstrict
  -- without attributes and minus the number is its literal; only a comma could still follow
  rcases Grammar.number_of_value hvalue hnumber hplain with ⟨hnegated, -⟩ | ⟨s, htokens, -⟩
  · exact absurd (hminus.symm.trans hnegated) (by decide)
  · obtain rfl : tokens = .literal s :: c'.rest := htokens
    unfold Rule.isLastComma at hlast
    split at hlast
    · rename_i hrest
      exact ⟨s, by rw [hrest]⟩
    · rename_i hrest
      rw [hrest] at hopen
      cases hopen
    · cases hlast

end Arguments

/-- A derive takes an attribute for a row exactly if a run does and it is not loosely written, and
then it is the same row. -/
theorem Source.Attribute.rowIndex_eq_ok_iff (a : Attribute) (n : UInt32) (r : Resolver)
    (home : String) : a.rowIndex = .ok n ↔
      a.content.isLoose = false ∧ ViewCompanion.rowIndex (r.arguments home a.content) = .ok n := by
  constructor
  · intro h
    obtain ⟨s, -, -, -, hcontent, -⟩ := eq_of_rowIndex h
    exact ⟨by rw [hcontent]; rfl, rowIndex_arguments h r home⟩
  · rintro ⟨hstrict, h⟩
    cases hcontent : a.content with
    | word =>
      rw [hcontent] at h
      cases h
    | value v =>
      rw [hcontent] at hstrict
      cases hstrict
    | list tokens =>
      rw [hcontent] at h hstrict
      obtain ⟨s, rfl⟩ := eq_literal_of_rowIndex hstrict h
      exact rowIndex_of_literal hcontent (hcontent ▸ h)

/-- Four attributes that name a row for a run and none for a derive. -/
theorem Source.Attribute.rowIndex_loose : (attributesOfText?
    "#[action_row = 0] #[action_row(0,)] #[action_row(-0)] #[action_row(#[row] 0)]").map
      (fun attributes => attributes.map fun a =>
        ((ViewCompanion.rowIndex
            ((Resolver.ofModules .standard []).arguments "crate" a.content)).toOption,
          a.rowIndex.toOption)) =
    some [(some 0, none), (some 0, none), (some 0, none), (some 0, none)] := by
  decide +kernel

end ViewCompanion
