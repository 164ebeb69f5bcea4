import Mathlib.Data.List.Basic
import ViewCompanion.Json.Reading

namespace ViewCompanion.Reading

/-- The characters that stand for another one behind a backslash. -/
def shortEscapes : List (Char × Char) :=
  [('"', '"'), ('\\', '\\'), ('/', '/'), ('b', '\x08'), ('f', '\x0c'), ('n', '\n'), ('r', '\r'),
    ('t', '\t')]

/-- Four hexadecimal digits that stand for `n`. -/
def IsCodeUnit (s : List Char) (n : Nat) : Prop :=
  s.length = 4 ∧ (∀ c ∈ s, Text.isHexDigit c = true) ∧ Text.foldDigits 16 0 s = n

/-- The text stands for the character in a string: the character itself, a short escape, its code in
hexadecimal digits, or the two codes of a surrogate pair. -/
inductive Spells : Char → List Char → Prop
  | itself {c : Char} : 32 ≤ c.toNat → c ≠ '"' → c ≠ '\\' → Spells c [c]
  | short {e c : Char} : (e, c) ∈ shortEscapes → Spells c ['\\', e]
  | code {s : List Char} {n : Nat} : IsCodeUnit s n → isHighSurrogate n = false →
      isLowSurrogate n = false → Spells (Char.ofNat n) ('\\' :: 'u' :: s)
  | pair {s t : List Char} {high low : Nat} : IsCodeUnit s high → isHighSurrogate high = true →
      IsCodeUnit t low → isLowSurrogate low = true →
      Spells (Char.ofNat (0x10000 + (high - 0xD800) * 0x400 + (low - 0xDC00)))
        ('\\' :: 'u' :: (s ++ '\\' :: 'u' :: t))

/-- What stands between the quotes of a string. -/
inductive SpellsAll : List Char → List Char → Prop
  | nil : SpellsAll [] []
  | cons {c : Char} {cs s t : List Char} : Spells c s → SpellsAll cs t →
      SpellsAll (c :: cs) (s ++ t)

section Escapes

variable {c : Char} {n : Nat} {s t rest : List Char}

theorem readUnit_eq_some_iff :
    readUnit s = some (n, rest) ↔ ∃ u, IsCodeUnit u n ∧ s = u ++ rest := by
  constructor
  · intro h
    unfold readUnit at h
    split at h
    · rename_i a b c d tail
      split at h
      · rename_i hall
        obtain ⟨rfl, rfl⟩ := Prod.mk.inj (Option.some.inj h)
        exact ⟨[a, b, c, d], ⟨rfl, List.all_eq_true.1 hall, rfl⟩, rfl⟩
      · cases h
    · cases h
  · rintro ⟨u, ⟨hlength, hall, rfl⟩, rfl⟩
    obtain ⟨a, b, c, d, rfl⟩ := List.length_eq_four.1 hlength
    exact if_pos (List.all_eq_true.2 hall)

theorem readUnicodeEscape_of_code (hn : readUnit s = some (n, rest))
    (hhigh : isHighSurrogate n = false) (hlow : isLowSurrogate n = false) :
    readUnicodeEscape s = some (some (Char.ofNat n), rest) := by
  simp only [readUnicodeEscape, hn, hhigh, hlow, Option.bind_eq_bind, Option.bind_some,
    Bool.false_eq_true, if_false]
  rfl

theorem readUnicodeEscape_of_pair {low : Nat} (hn : readUnit s = some (n, '\\' :: 'u' :: t))
    (hhigh : isHighSurrogate n = true) (ht : readUnit t = some (low, rest))
    (hlow : isLowSurrogate low = true) :
    readUnicodeEscape s =
      some (some (Char.ofNat (0x10000 + (n - 0xD800) * 0x400 + (low - 0xDC00))), rest) := by
  simp only [readUnicodeEscape, hn, hhigh, ht, hlow, Option.bind_eq_bind, Option.bind_some, if_true]
  rfl

theorem spells_of_readUnicodeEscape (h : readUnicodeEscape s = some (some c, rest)) :
    ∃ t, Spells c ('\\' :: 'u' :: t) ∧ s = t ++ rest := by
  obtain ⟨⟨first, after⟩, hfirst, hread⟩ := Option.bind_eq_some_iff.1 h
  obtain ⟨u, hu, rfl⟩ := readUnit_eq_some_iff.1 hfirst
  dsimp only at hread
  split at hread
  · -- half of a pair stands for a character only with the other half behind it
    rename_i hhigh
    split at hread
    · obtain ⟨⟨second, last⟩, hsecond, hread⟩ := Option.bind_eq_some_iff.1 hread
      obtain ⟨v, hv, rfl⟩ := readUnit_eq_some_iff.1 hsecond
      dsimp only at hread
      split at hread
      · rename_i hlow
        obtain ⟨hc, rfl⟩ := Prod.mk.inj (Option.some.inj hread)
        obtain rfl := Option.some.inj hc
        exact ⟨u ++ '\\' :: 'u' :: v, .pair hu hhigh hv hlow, by simp⟩
      · cases hread
    · cases hread
  · rename_i hhigh
    split at hread
    · cases hread
    · rename_i hlow
      cases hread
      exact ⟨u, .code hu (Bool.eq_false_iff.2 hhigh) (Bool.eq_false_iff.2 hlow), rfl⟩

theorem readEscape_of_spells (h : Spells c ('\\' :: t)) :
    readEscape (t ++ rest) = some (some c, rest) := by
  cases h with
  | itself _ _ hslash => exact absurd rfl hslash
  | short hmem =>
    simp only [shortEscapes, List.mem_cons, Prod.mk.injEq, List.not_mem_nil, or_false] at hmem
    rcases hmem with ⟨rfl, rfl⟩ | ⟨rfl, rfl⟩ | ⟨rfl, rfl⟩ | ⟨rfl, rfl⟩ | ⟨rfl, rfl⟩ | ⟨rfl, rfl⟩ |
      ⟨rfl, rfl⟩ | ⟨rfl, rfl⟩ <;> rfl
  | code hu hhigh hlow =>
    exact readUnicodeEscape_of_code (readUnit_eq_some_iff.2 ⟨_, hu, rfl⟩) hhigh hlow
  | @pair u v high low hu hhigh hv hlow =>
    have hfirst : readUnit (u ++ '\\' :: 'u' :: v ++ rest) =
        some (high, '\\' :: 'u' :: (v ++ rest)) :=
      readUnit_eq_some_iff.2 ⟨u, hu, by simp⟩
    exact readUnicodeEscape_of_pair hfirst hhigh (readUnit_eq_some_iff.2 ⟨v, hv, rfl⟩) hlow

theorem spells_of_readEscape (h : readEscape s = some (some c, rest)) :
    ∃ t, Spells c ('\\' :: t) ∧ s = t ++ rest := by
  unfold readEscape at h
  split at h
  case h_9 =>
    obtain ⟨t, ht, rfl⟩ := spells_of_readUnicodeEscape h
    exact ⟨'u' :: t, ht, rfl⟩
  case h_10 => cases h
  all_goals
    cases h
    exact ⟨[_], .short (by decide), rfl⟩

theorem readPieces_escape {s rest : List Char} {piece : Piece}
    (h : readEscape s = some (piece, rest)) (fuel : Nat) : readPieces (fuel + 1) ('\\' :: s) =
      (readPieces fuel rest).map fun (pieces, last) => (piece :: pieces, last) := by
  rw [readPieces, h]
  show (readPieces fuel rest).bind _ = _
  cases readPieces fuel rest <;> rfl

theorem readPieces_of_spells (h : Spells c s) (fuel : Nat) : readPieces (fuel + 1) (s ++ rest) =
    (readPieces fuel rest).map fun (pieces, last) => (some c :: pieces, last) := by
  obtain ⟨t, rfl⟩ | ⟨hcontrol, hquote, hslash, rfl⟩ :
      (∃ t, s = '\\' :: t) ∨ (32 ≤ c.toNat ∧ c ≠ '"' ∧ c ≠ '\\' ∧ s = [c]) := by
    cases h with
    | itself hcontrol hquote hslash => exact .inr ⟨hcontrol, hquote, hslash, rfl⟩
    | _ => exact .inl ⟨_, rfl⟩
  · exact readPieces_escape (readEscape_of_spells h) fuel
  · rw [List.singleton_append, readPieces, if_neg (Nat.not_lt.2 hcontrol)]
    · cases readPieces fuel rest <;> rfl
    · exact hquote
    · exact hslash

end Escapes

section Strings

variable {cs s rest : List Char} {text : String}

theorem length_le_of_spellsAll (h : SpellsAll cs s) : cs.length ≤ s.length := by
  induction h with
  | nil => exact Nat.le_refl 0
  | @cons c cs s t hc _ ih =>
    have hone : 1 ≤ s.length := by
      cases hc <;> exact Nat.le_add_left 1 _
    rw [List.length_cons, List.length_append]
    omega

theorem readPieces_of_spellsAll (h : SpellsAll cs s) {fuel : Nat} (hfuel : cs.length < fuel) :
    readPieces fuel (s ++ '"' :: rest) = some (cs.map some, rest) := by
  induction h generalizing fuel with
  | nil =>
    obtain ⟨fuel, rfl⟩ := Nat.exists_eq_add_one.2 hfuel
    rfl
  | cons hc _ ih =>
    obtain ⟨fuel, rfl⟩ := Nat.exists_eq_add_one.2 (Nat.zero_lt_of_lt hfuel)
    rw [List.append_assoc, readPieces_of_spells hc, ih (Nat.lt_of_succ_lt_succ hfuel)]
    rfl

theorem exists_of_pieces {piece : Piece} {pieces : List Piece} {last : List Char}
    (h : some (piece :: pieces, last) = some (cs.map some, rest)) :
    ∃ c others, cs = c :: others ∧ piece = some c ∧ pieces = others.map some ∧ last = rest := by
  obtain ⟨hpieces, rfl⟩ := Prod.mk.inj (Option.some.inj h)
  obtain ⟨c, others, rfl, rfl, rfl⟩ := List.map_eq_cons_iff.1 hpieces.symm
  exact ⟨c, others, rfl, rfl, rfl, rfl⟩

/-- How the reader goes on: with the closing quote, or with a spelling of the next character. -/
theorem exists_of_readPieces {fuel : Nat}
    (h : readPieces (fuel + 1) s = some (cs.map some, rest)) : cs = [] ∧ s = '"' :: rest ∨
      ∃ c others t after, cs = c :: others ∧ Spells c t ∧ s = t ++ after ∧
        readPieces fuel after = some (others.map some, rest) := by
  unfold readPieces at h
  split at h
  case h_1 => cases h
  case h_2 => cases h
  case h_3 =>
    obtain ⟨hnil, rfl⟩ := Prod.mk.inj (Option.some.inj h)
    exact .inl ⟨List.map_eq_nil_iff.1 hnil.symm, rfl⟩
  case h_4 tail hfuel =>
    obtain rfl := Nat.succ.inj hfuel
    obtain ⟨⟨piece, after⟩, hescape, h⟩ := Option.bind_eq_some_iff.1 h
    obtain ⟨⟨pieces, last⟩, hread, h⟩ := Option.bind_eq_some_iff.1 h
    obtain ⟨c, others, rfl, rfl, rfl, rfl⟩ := exists_of_pieces h
    obtain ⟨t, ht, rfl⟩ := spells_of_readEscape hescape
    exact .inr ⟨c, others, '\\' :: t, after, rfl, ht, rfl, hread⟩
  case h_5 c tail hquote hslash hfuel =>
    obtain rfl := Nat.succ.inj hfuel
    split at h
    · cases h
    · rename_i hcontrol
      obtain ⟨⟨pieces, last⟩, hread, h⟩ := Option.bind_eq_some_iff.1 h
      obtain ⟨_, others, rfl, hc, rfl, rfl⟩ := exists_of_pieces h
      obtain rfl := Option.some.inj hc
      exact .inr ⟨c, others, [c], tail, rfl, .itself (Nat.not_lt.1 hcontrol) hquote hslash, rfl,
        hread⟩

theorem spellsAll_of_readPieces {fuel : Nat} (h : readPieces fuel s = some (cs.map some, rest)) :
    ∃ t, SpellsAll cs t ∧ s = t ++ '"' :: rest := by
  induction fuel generalizing s cs with
  | zero => cases h
  | succ fuel ih =>
    obtain ⟨rfl, rfl⟩ | ⟨c, others, t, after, rfl, hc, rfl, hread⟩ := exists_of_readPieces h
    · exact ⟨[], .nil, rfl⟩
    · obtain ⟨u, hu, rfl⟩ := ih hread
      exact ⟨t ++ u, .cons hc hu, (List.append_assoc ..).symm⟩

theorem textOf_map_some (cs : List Char) : textOf (cs.map some) = some (String.ofList cs) := by
  have hmap : (cs.map some).mapM id = some cs := by
    induction cs with
    | nil => rfl
    | cons c cs ih => rw [List.map_cons, List.mapM_cons, ih]; rfl
  rw [textOf, hmap]
  rfl

theorem eq_map_of_mapM {pieces : List Piece} (h : pieces.mapM id = some cs) :
    pieces = cs.map some := by
  induction pieces generalizing cs with
  | nil =>
    obtain rfl := Option.some.inj h
    rfl
  | cons piece pieces ih =>
    rw [List.mapM_cons] at h
    obtain ⟨c, hc, hrest⟩ := Option.bind_eq_some_iff.1 h
    obtain ⟨others, hothers, hcs⟩ := Option.bind_eq_some_iff.1 hrest
    obtain rfl := Option.some.inj hcs
    rw [List.map_cons, ih hothers]
    exact congrArg (· :: others.map some) hc

theorem eq_map_of_textOf {pieces : List Piece} (h : textOf pieces = some text) :
    pieces = text.toList.map some := by
  obtain ⟨chars, hchars, rfl⟩ := Option.map_eq_some_iff.1 h
  rw [String.toList_ofList]
  exact eq_map_of_mapM hchars

/-- A string is read from each of its spellings, and from nothing else. -/
theorem readString_eq_some_iff : readString s = some (some text, rest) ↔
    ∃ t, SpellsAll text.toList t ∧ s = t ++ '"' :: rest := by
  constructor
  · intro h
    obtain ⟨⟨pieces, last⟩, hread, h⟩ := Option.map_eq_some_iff.1 h
    obtain ⟨htext, rfl⟩ := Prod.mk.inj h
    exact spellsAll_of_readPieces (eq_map_of_textOf htext ▸ hread)
  · rintro ⟨t, ht, rfl⟩
    have hlength := length_le_of_spellsAll ht
    have hread : readPieces ((t ++ '"' :: rest).length + 1) (t ++ '"' :: rest) =
        some (text.toList.map some, rest) := by
      apply readPieces_of_spellsAll ht
      rw [List.length_append]
      omega
    rw [readString, hread]
    show some (textOf (text.toList.map some), rest) = _
    rw [textOf_map_some, String.ofList_toList]

theorem spells_of_control {c : Char} (h : c.toNat < 32) : Spells c
    ['\\', 'u', '0', '0', Json.hexDigit (c.toNat / 16), Json.hexDigit (c.toNat % 16)] := by
  -- a control character has two digits, so that all of them can be tried
  have hdigits : ∀ n < 32,
      ['0', '0', Json.hexDigit (n / 16), Json.hexDigit (n % 16)].all Text.isHexDigit = true ∧
        Text.foldDigits 16 0 ['0', '0', Json.hexDigit (n / 16), Json.hexDigit (n % 16)] = n ∧
        isHighSurrogate n = false ∧ isLowSurrogate n = false := by
    decide
  obtain ⟨hall, hvalue, hhigh, hlow⟩ := hdigits c.toNat h
  have hcode := Spells.code ⟨rfl, List.all_eq_true.1 hall, hvalue⟩ hhigh hlow
  rwa [Char.ofNat_toNat] at hcode

theorem spells_escapeChar (c : Char) : Spells c (Json.escapeChar c) := by
  unfold Json.escapeChar
  split
  case h_8 hquote hslash _ _ _ _ _ =>
    split
    · rename_i hcontrol
      exact spells_of_control hcontrol
    · rename_i hcontrol
      exact .itself (Nat.not_lt.1 hcontrol) hquote hslash
  all_goals exact .short (by decide)

theorem spellsAll_flatMap (cs : List Char) : SpellsAll cs (cs.flatMap Json.escapeChar) := by
  induction cs with
  | nil => exact .nil
  | cons c cs ih => exact .cons (spells_escapeChar c) ih

theorem stringText_append (s : String) (rest : List Char) : Json.stringText s ++ rest =
    '"' :: (s.toList.flatMap Json.escapeChar ++ '"' :: rest) := by
  rw [Json.stringText, List.cons_append, List.cons_append, List.append_assoc]
  rfl

theorem readString_stringText (s : String) (rest : List Char) :
    readString (s.toList.flatMap Json.escapeChar ++ '"' :: rest) = some (some s, rest) :=
  readString_eq_some_iff.2 ⟨_, spellsAll_flatMap s.toList, rfl⟩

end Strings

end ViewCompanion.Reading
