import Mathlib.Data.List.TakeWhile
import ViewCompanion.Proofs.Json.Written

namespace ViewCompanion.Reading

variable {s rest : List Char} {r : Reading} {k : Int} {n : Nat}

/-- What stands in the text, if a string or a whole number is read from it. -/
def Holds (s rest : List Char) : Reading → Prop
  | string text => ∃ t, SpellsAll text.toList t ∧ s = '"' :: (t ++ '"' :: rest)
  | integer k => IsExact k ∧ s = Json.numberText k ++ rest
  | _ => True

theorem holds_of_readWord {word : List Char} {value : Reading} (hvalue : Holds s rest value)
    {t : List Char} (h : readWord word t value = (r, rest)) : Holds s rest r := by
  unfold readWord at h
  split at h
  · exact (Prod.mk.inj h).1 ▸ hvalue
  · exact (Prod.mk.inj h).1 ▸ trivial

theorem holds_of_readValue (h : readValue (n + 1) s = (r, rest)) : Holds (skipBlanks s) rest r := by
  rw [readValue] at h
  split at h
  case h_1 => exact (Prod.mk.inj h).1 ▸ trivial
  case h_2 t heq =>
    rw [heq]
    split at h
    · rename_i text after hread
      obtain ⟨rfl, rfl⟩ := Prod.mk.inj h
      obtain ⟨u, hu, rfl⟩ := readString_eq_some_iff.1 hread
      exact ⟨u, hu, rfl⟩
    · exact (Prod.mk.inj h).1 ▸ trivial
    · exact (Prod.mk.inj h).1 ▸ trivial
  case h_3 | h_4 => split at h <;> exact (Prod.mk.inj h).1 ▸ trivial
  case h_5 | h_6 | h_7 =>
    refine holds_of_readWord ?_ h
    trivial
  case h_8 =>
    split at h
    · rename_i numeral after hread
      obtain ⟨rfl, rfl⟩ := Prod.mk.inj h
      obtain ⟨k, hk⟩ | ⟨finite, hfinite⟩ := reading_cases numeral
      · rw [hk]
        exact of_reading_integer hread hk
      · rw [hfinite]
        trivial
    · exact (Prod.mk.inj h).1 ▸ trivial

theorem exists_blanks (s : List Char) : ∃ b, Blanks b ∧ s = b ++ skipBlanks s :=
  ⟨s.takeWhile isBlank, List.all_eq_true.1 List.all_takeWhile,
    List.takeWhile_append_dropWhile.symm⟩

theorem isEmpty_skipBlanks_iff : (skipBlanks s).isEmpty = true ↔ Blanks s := by
  rw [List.isEmpty_iff]
  exact List.dropWhile_eq_nil_iff

/-- The text holds the string and nothing else, with blanks around it. -/
def IsStringText (text s : String) : Prop :=
  ∃ b t b', Blanks b ∧ SpellsAll s.toList t ∧ Blanks b' ∧
    text.toList = b ++ '"' :: (t ++ '"' :: b')

/-- The text holds the digits of `k`, with its sign, and nothing else, with blanks around it. -/
def IsNumberText (text : String) (k : Int) : Prop :=
  ∃ b b', Blanks b ∧ Blanks b' ∧ text.toList = b ++ (Json.numberText k ++ b')

variable {text : String}

theorem ofText_eq_iff : ofText text = (r, true) ↔
    ∃ rest, readValue (2 * text.toList.length + 2) text.toList = (r, rest) ∧ Blanks rest := by
  constructor
  · intro h
    obtain ⟨rfl, hended⟩ := Prod.mk.inj h
    exact ⟨_, rfl, isEmpty_skipBlanks_iff.1 hended⟩
  · rintro ⟨rest, hread, hrest⟩
    simp only [ofText, hread, isEmpty_skipBlanks_iff.2 hrest]

theorem ofText_eq_string_iff {s : String} :
    ofText text = (.string s, true) ↔ IsStringText text s := by
  rw [ofText_eq_iff]
  constructor
  · rintro ⟨rest, hread, hrest⟩
    obtain ⟨t, ht, hskip⟩ := holds_of_readValue hread
    obtain ⟨b, hb, htext⟩ := exists_blanks text.toList
    exact ⟨b, t, rest, hb, ht, hrest, hskip ▸ htext⟩
  · rintro ⟨b, t, rest, hb, ht, hrest, htext⟩
    have hskip : skipBlanks text.toList = '"' :: (t ++ '"' :: rest) := by
      rw [htext, skipBlanks_append hb, skipBlanks_cons rfl]
    refine ⟨rest, ?_, hrest⟩
    rw [readValue, hskip]
    simp only [readString_eq_some_iff.2 ⟨t, ht, rfl⟩]

theorem ofText_eq_integer_iff :
    ofText text = (.integer k, true) ↔ IsExact k ∧ IsNumberText text k := by
  rw [ofText_eq_iff]
  constructor
  · rintro ⟨rest, hread, hrest⟩
    obtain ⟨hk, hskip⟩ := holds_of_readValue hread
    obtain ⟨b, hb, htext⟩ := exists_blanks text.toList
    exact ⟨hk, b, rest, hb, hrest, hskip ▸ htext⟩
  · rintro ⟨hk, b, rest, hb, hrest, htext⟩
    have hends : EndsNumber rest := by
      rw [← List.append_nil rest]
      exact endsNumber_append hrest nofun
    refine ⟨rest, ?_, hrest⟩
    have hlength : (Json.numberText k).length < 2 * text.toList.length + 2 := by
      rw [htext, List.length_append, List.length_append]
      omega
    have hread := (reads _).1 (.number hk) hlength hb hends
    rwa [← htext] at hread

end ViewCompanion.Reading
