import Mathlib.Data.List.Basic
import ViewCompanion.Text.Split

namespace ViewCompanion.Text

theorem dropFront?_eq_none {m c : Char} {ms s : List Char} (h : m ≠ c) :
    dropFront? (m :: ms) (c :: s) = none := by
  rw [dropFront?, if_neg h]

section Replace

variable {old new : List Char}

/-- Fuel beyond the length of the text changes nothing. -/
theorem replaceAll_go_eq (hold : old ≠ []) {n m : ℕ} {s : List Char} (hn : s.length ≤ n)
    (hm : s.length ≤ m) : replaceAll.go old new n s = replaceAll.go old new m s := by
  induction n generalizing m s with
  | zero =>
    obtain rfl := List.length_eq_zero_iff.1 (Nat.le_zero.1 hn)
    cases m <;> rfl
  | succ n ih =>
    cases s with
    | nil => cases m <;> rfl
    | cons c s =>
      obtain ⟨m, rfl⟩ : ∃ k, m = k + 1 := ⟨m - 1, by simp at hm; omega⟩
      simp only [List.length_cons] at hn hm
      simp only [replaceAll.go]
      cases hdrop : dropFront? old (c :: s) with
      | none => exact congrArg (c :: ·) (ih (by omega) (by omega))
      | some rest =>
        have hlen := congrArg List.length (dropFront?_eq_some_iff.1 hdrop)
        have hpos := List.length_pos_iff.2 hold
        simp only [List.length_cons, List.length_append] at hlen
        simp only [if_neg hold]
        exact congrArg (new ++ ·) (ih (by omega) (by omega))

theorem replaceAll_nil : replaceAll old new [] = [] := rfl

theorem replaceAll_append (hold : old ≠ []) (s : List Char) :
    replaceAll old new (old ++ s) = new ++ replaceAll old new s := by
  cases hos : old ++ s with
  | nil => exact absurd (List.append_eq_nil_iff.1 hos).1 hold
  | cons c rest =>
    have hdrop : dropFront? old (c :: rest) = some s := dropFront?_eq_some_iff.2 hos.symm
    have hlen := congrArg List.length hos
    have hpos := List.length_pos_iff.2 hold
    simp only [List.length_cons, List.length_append] at hlen
    rw [replaceAll, List.length_cons, replaceAll.go, hdrop]
    simp only [if_neg hold]
    exact congrArg (new ++ ·) (replaceAll_go_eq hold (by omega) (Nat.le_refl _))

theorem replaceAll_cons {c : Char} {s : List Char} (h : dropFront? old (c :: s) = none) :
    replaceAll old new (c :: s) = c :: replaceAll old new s := by
  rw [replaceAll, List.length_cons, replaceAll.go, h]
  rfl

theorem replaceAll_append_of_not_mem {m : Char} {ms piece : List Char} (h : m ∉ piece)
    (s : List Char) :
    replaceAll (m :: ms) new (piece ++ s) = piece ++ replaceAll (m :: ms) new s := by
  induction piece with
  | nil => rfl
  | cons c piece ih =>
    have hne : m ≠ c := List.ne_of_not_mem_cons h
    have hpiece : m ∉ piece := List.not_mem_of_not_mem_cons h
    rw [List.cons_append, replaceAll_cons (dropFront?_eq_none hne), ih hpiece, List.cons_append]

theorem replaceAll_of_not_mem {m : Char} {ms s : List Char} (h : m ∉ s) :
    replaceAll (m :: ms) new s = s := by
  have happend : replaceAll (m :: ms) new (s ++ []) = s ++ replaceAll (m :: ms) new [] :=
    replaceAll_append_of_not_mem h []
  simpa [replaceAll_nil] using happend

theorem replaceAll_joinWith {m : Char} {ms : List Char} {pieces : List (List Char)}
    (h : ∀ piece ∈ pieces, m ∉ piece) :
    replaceAll (m :: ms) new (joinWith (m :: ms) pieces) = joinWith new pieces := by
  induction pieces with
  | nil => rfl
  | cons s rest ih =>
    have hs : m ∉ s := h s List.mem_cons_self
    have ih := ih fun piece hpiece => h piece (List.mem_cons_of_mem _ hpiece)
    cases rest with
    | nil => exact replaceAll_of_not_mem hs
    | cons t rest =>
      -- the first match is behind the first piece
      rw [joinWith, List.append_assoc, replaceAll_append_of_not_mem hs,
        replaceAll_append (List.cons_ne_nil _ _), ih, joinWith, List.append_assoc]

end Replace

theorem joinWith_concat (mark : List Char) {pieces : List (List Char)} (h : pieces ≠ [])
    (last : List Char) :
    joinWith mark (pieces ++ [last]) = joinWith mark pieces ++ mark ++ last := by
  induction pieces with
  | nil => exact absurd rfl h
  | cons s rest ih =>
    cases rest with
    | nil => rfl
    | cons t rest =>
      have ih := ih (List.cons_ne_nil _ _)
      simp only [List.cons_append] at ih ⊢
      rw [joinWith, ih, joinWith]
      simp only [List.append_assoc]

theorem joinWith_cons (mark first : List Char) (rest : List (List Char)) :
    joinWith mark (first :: rest) = first ++ rest.flatMap (mark ++ ·) := by
  induction rest generalizing first with
  | nil => simp [joinWith]
  | cons s rest ih => rw [joinWith, ih, List.flatMap_cons, List.append_assoc, List.append_assoc]

theorem joinWith_eq_nil_iff {mark : List Char} {pieces : List (List Char)}
    (h : ∀ piece ∈ pieces, piece ≠ []) : joinWith mark pieces = [] ↔ pieces = [] := by
  cases pieces with
  | nil => simp [joinWith]
  | cons s rest =>
    have hs : s ≠ [] := h s List.mem_cons_self
    cases rest <;> simp [joinWith, hs]

theorem mem_joinWith {mark : List Char} {pieces : List (List Char)} {c : Char}
    (h : c ∈ joinWith mark pieces) : c ∈ mark ∨ ∃ piece ∈ pieces, c ∈ piece := by
  induction pieces with
  | nil => cases h
  | cons s rest ih =>
    cases rest with
    | nil => exact .inr ⟨s, List.mem_cons_self, h⟩
    | cons t rest =>
      rw [joinWith, List.mem_append, List.mem_append] at h
      rcases h with (h | h) | h
      · exact .inr ⟨s, List.mem_cons_self, h⟩
      · exact .inl h
      · rcases ih h with h | ⟨piece, hpiece, h⟩
        · exact .inl h
        · exact .inr ⟨piece, List.mem_cons_of_mem _ hpiece, h⟩

theorem mem_joinWith_of_mem {mark piece : List Char} {pieces : List (List Char)} {c : Char}
    (hpiece : piece ∈ pieces) (h : c ∈ piece) : c ∈ joinWith mark pieces := by
  induction pieces with
  | nil => cases hpiece
  | cons s rest ih =>
    cases rest with
    | nil =>
      obtain rfl := List.mem_singleton.1 hpiece
      exact h
    | cons t rest =>
      rw [joinWith, List.mem_append, List.mem_append]
      rcases List.mem_cons.1 hpiece with rfl | hpiece
      · exact .inl (.inl h)
      · exact .inr (ih hpiece)

section Cut

variable {m : Char} {ms mark : List Char}

theorem cutFirst?_append {piece : List Char} (h : m ∉ piece) (s : List Char) :
    cutFirst? (m :: ms) (piece ++ (m :: ms ++ s)) = some (piece, s) := by
  induction piece with
  | nil =>
    have hdrop : dropFront? (m :: ms) (m :: (ms ++ s)) = some s := dropFront?_eq_some_iff.2 rfl
    rw [List.nil_append, List.cons_append, cutFirst?, hdrop]
  | cons c piece ih =>
    have hne : m ≠ c := List.ne_of_not_mem_cons h
    have hpiece : m ∉ piece := List.not_mem_of_not_mem_cons h
    rw [List.cons_append, cutFirst?, dropFront?_eq_none hne, ih hpiece]
    rfl

theorem cutFirst?_of_not_mem {s : List Char} (h : m ∉ s) : cutFirst? (m :: ms) s = none := by
  induction s with
  | nil => rfl
  | cons c s ih =>
    have hne : m ≠ c := List.ne_of_not_mem_cons h
    rw [cutFirst?, dropFront?_eq_none hne, ih (List.not_mem_of_not_mem_cons h)]
    rfl

theorem cutLast?_append (hne : mark ≠ []) {last : List Char} (h : ∀ c ∈ mark, c ∉ last)
    (before : List Char) : cutLast? mark (before ++ mark ++ last) = some (before, last) := by
  obtain ⟨m, ms, hms⟩ := List.exists_cons_of_ne_nil (List.reverse_ne_nil_iff.2 hne)
  have hm : m ∈ mark := List.mem_reverse.1 (hms ▸ List.mem_cons_self)
  have hlast : m ∉ last.reverse := fun hmem => h m hm (List.mem_reverse.1 hmem)
  rw [cutLast?, List.reverse_append, List.reverse_append, hms, cutFirst?_append hlast]
  simp

theorem cutLast?_of_not_mem (hne : mark ≠ []) {s : List Char} (h : ∀ c ∈ mark, c ∉ s) :
    cutLast? mark s = none := by
  obtain ⟨m, ms, hms⟩ := List.exists_cons_of_ne_nil (List.reverse_ne_nil_iff.2 hne)
  have hm : m ∈ mark := List.mem_reverse.1 (hms ▸ List.mem_cons_self)
  have hs : m ∉ s.reverse := fun hmem => h m hm (List.mem_reverse.1 hmem)
  rw [cutLast?, hms, cutFirst?_of_not_mem hs]
  rfl

theorem eq_of_cutFirst? {s before after : List Char}
    (h : cutFirst? mark s = some (before, after)) : s = before ++ (mark ++ after) := by
  induction s generalizing before with
  | nil =>
    unfold cutFirst? at h
    split at h
    · rename_i hmark
      cases h
      rw [hmark]
      rfl
    · cases h
  | cons c s ih =>
    unfold cutFirst? at h
    split at h
    · rename_i hdrop
      cases h
      rw [List.nil_append]
      exact dropFront?_eq_some_iff.1 hdrop
    · obtain ⟨⟨front, back⟩, hcut, hpair⟩ := Option.map_eq_some_iff.1 h
      cases hpair
      rw [ih hcut, List.cons_append]

theorem eq_of_cutLast? {s before after : List Char}
    (h : cutLast? mark s = some (before, after)) : s = before ++ (mark ++ after) := by
  obtain ⟨⟨back, front⟩, hcut, hpair⟩ := Option.map_eq_some_iff.1 h
  cases hpair
  have hreverse := congrArg List.reverse (eq_of_cutFirst? hcut)
  simpa using hreverse

/-- A double mark in a joined text stands between two of its pieces, never across a joint. -/
theorem exists_append_of_joinWith {pieces : List (List Char)} {front back : List Char}
    (hne : ∀ piece ∈ pieces, piece ≠ []) (hfree : ∀ piece ∈ pieces, m ∉ piece)
    (h : joinWith [m, m] pieces = front ++ ([m, m] ++ back)) :
    ∃ first rest, first ≠ [] ∧ rest ≠ [] ∧ pieces = first ++ rest ∧
      front = joinWith [m, m] first ∧ back = joinWith [m, m] rest := by
  induction pieces generalizing front with
  | nil => exact absurd h.symm (by simp [joinWith])
  | cons s rest ih =>
    have hs : m ∉ s := hfree s List.mem_cons_self
    cases rest with
    | nil =>
      rw [joinWith] at h
      rw [h] at hs
      exact absurd (by simp) hs
    | cons t rest =>
      have hne' : ∀ piece ∈ t :: rest, piece ≠ [] := fun piece hp =>
        hne piece (List.mem_cons_of_mem _ hp)
      have hfree' : ∀ piece ∈ t :: rest, m ∉ piece := fun piece hp =>
        hfree piece (List.mem_cons_of_mem _ hp)
      rw [joinWith, List.append_assoc, List.append_eq_append_iff] at h
      rcases h with ⟨past, hfront, hpast⟩ | ⟨past, hfront, hpast⟩
      · match past with
        | [] =>
          rw [List.append_nil] at hfront
          exact ⟨[s], t :: rest, by simp, by simp, rfl, hfront,
            (List.append_cancel_left hpast).symm⟩
        | [c] =>
          -- then the next piece would begin with a mark
          simp only [List.cons_append, List.nil_append, List.cons.injEq] at hpast
          have hmem : m ∈ t := by
            obtain ⟨d, ds, rfl⟩ := List.exists_cons_of_ne_nil (hne' t List.mem_cons_self)
            have hhead : (joinWith [m, m] ((d :: ds) :: rest)).head? = some d := by
              cases rest <;> rfl
            rw [hpast.2.2] at hhead
            obtain rfl := Option.some.inj hhead
            exact List.mem_cons_self
          exact absurd hmem (hfree' t List.mem_cons_self)
        | c :: d :: past =>
          simp only [List.cons_append, List.nil_append, List.cons.injEq] at hpast
          obtain ⟨rfl, rfl, hpast⟩ := hpast
          obtain ⟨first, last, hfirst, hlast, hpieces, hfront', hback⟩ := ih hne' hfree' hpast
          refine ⟨s :: first, last, by simp, hlast, by rw [hpieces]; rfl, ?_, hback⟩
          obtain ⟨u, us, rfl⟩ := List.exists_cons_of_ne_nil hfirst
          rw [hfront, joinWith, hfront', List.append_assoc]
          rfl
      · match past with
        | [] =>
          rw [List.append_nil] at hfront
          exact ⟨[s], t :: rest, by simp, by simp, rfl, hfront.symm,
            List.append_cancel_left hpast⟩
        | c :: past =>
          simp only [List.cons_append, List.nil_append, List.cons.injEq] at hpast
          rw [hfront, ← hpast.1] at hs
          exact absurd (by simp) hs

end Cut

section Split

variable {mark : Char}

theorem splitAt_ne_nil (s : List Char) : splitAt mark s ≠ [] := by
  cases s with
  | nil => exact List.cons_ne_nil _ _
  | cons c s =>
    rw [splitAt]
    split
    · exact List.cons_ne_nil _ _
    · split <;> exact List.cons_ne_nil _ _

theorem splitAt_of_not_mem {s : List Char} (h : mark ∉ s) : splitAt mark s = [s] := by
  induction s with
  | nil => rfl
  | cons c s ih =>
    have hc : c ≠ mark := (List.ne_of_not_mem_cons h).symm
    rw [splitAt, if_neg hc, ih (List.not_mem_of_not_mem_cons h)]

theorem splitAt_append_mark (s t : List Char) :
    splitAt mark (s ++ mark :: t) = splitAt mark s ++ splitAt mark t := by
  induction s with
  | nil =>
    change splitAt mark (mark :: t) = [] :: splitAt mark t
    rw [splitAt, if_pos rfl]
  | cons c s ih =>
    rw [List.cons_append, splitAt, splitAt, ih]
    by_cases hc : c = mark
    · rw [if_pos hc, if_pos hc, List.cons_append]
    · rw [if_neg hc, if_neg hc]
      cases hs : splitAt mark s with
      | nil => exact absurd hs (splitAt_ne_nil s)
      | cons piece rest => rfl

theorem not_mem_of_mem_splitAt {s piece : List Char} (h : piece ∈ splitAt mark s) :
    mark ∉ piece := by
  induction s generalizing piece with
  | nil =>
    obtain rfl := List.mem_singleton.1 h
    exact List.not_mem_nil
  | cons c s ih =>
    rw [splitAt] at h
    split at h
    · rcases List.mem_cons.1 h with rfl | h
      · exact List.not_mem_nil
      · exact ih h
    · rename_i hc
      cases hs : splitAt mark s with
      | nil => exact absurd hs (splitAt_ne_nil s)
      | cons first rest =>
        rw [hs] at h ih
        rcases List.mem_cons.1 h with rfl | h
        · intro hmem
          rcases List.mem_cons.1 hmem with rfl | hmem
          · exact hc rfl
          · exact ih List.mem_cons_self hmem
        · exact ih (List.mem_cons_of_mem _ h)

theorem joinWith_splitAt (s : List Char) : joinWith [mark] (splitAt mark s) = s := by
  induction s with
  | nil => rfl
  | cons c s ih =>
    rw [splitAt]
    cases hs : splitAt mark s with
    | nil => exact absurd hs (splitAt_ne_nil s)
    | cons first rest =>
      rw [hs] at ih
      split
      · rename_i hc
        rw [joinWith, ih, hc]
        rfl
      · cases rest with
        | nil => exact congrArg (c :: ·) ih
        | cons second rest => exact congrArg (c :: ·) ih

theorem splitAt_injective : Function.Injective (splitAt mark) := by
  intro s t h
  have hs : joinWith [mark] (splitAt mark s) = s := joinWith_splitAt s
  rw [h, joinWith_splitAt] at hs
  exact hs.symm

end Split

end ViewCompanion.Text
