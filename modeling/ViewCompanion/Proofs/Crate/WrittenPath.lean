import ViewCompanion.Crate.Resolver
import ViewCompanion.Proofs.Artifact.Path

namespace ViewCompanion

open Source

namespace Text

variable {pieces : List (List Char)}

/-- The pieces of a text between each two `::`, which are found from the left. -/
def splitMarks : List Char → List (List Char)
  | ':' :: ':' :: s => [] :: splitMarks s
  | c :: s =>
    match splitMarks s with
    | [] => [[c]]
    | piece :: rest => (c :: piece) :: rest
  | [] => [[]]

theorem splitMarks_cons {c : Char} {s : List Char} (hc : c ≠ ':') {piece : List Char}
    {rest : List (List Char)} (h : splitMarks s = piece :: rest) :
    splitMarks (c :: s) = (c :: piece) :: rest := by
  rw [splitMarks.eq_def]
  split
  · rename_i heq
    exact absurd (List.cons.inj heq).1 hc
  · rename_i heq
    cases heq
    rw [h]
  · rename_i heq
    cases heq

theorem splitMarks_append {piece : List Char} (h : ':' ∉ piece) {s first : List Char}
    {rest : List (List Char)} (hs : splitMarks s = first :: rest) :
    splitMarks (piece ++ s) = (piece ++ first) :: rest := by
  induction piece with
  | nil => exact hs
  | cons c piece ih =>
    exact splitMarks_cons (List.ne_of_not_mem_cons h).symm (ih (List.not_mem_of_not_mem_cons h))

theorem splitMarks_joinWith (hne : pieces ≠ []) (h : ∀ piece ∈ pieces, ':' ∉ piece) :
    splitMarks (joinWith QualifiedName.mark pieces) = pieces := by
  induction pieces with
  | nil => exact absurd rfl hne
  | cons first rest ih =>
    have hfirst : ':' ∉ first := h first List.mem_cons_self
    cases rest with
    | nil =>
      have hempty := splitMarks_append hfirst (s := []) rfl
      rwa [List.append_nil] at hempty
    | cons second rest =>
      have ih := ih (List.cons_ne_nil _ _) fun piece hp => h piece (List.mem_cons_of_mem _ hp)
      have hmark : splitMarks (QualifiedName.mark ++ joinWith QualifiedName.mark (second :: rest)) =
          [] :: second :: rest := congrArg (List.cons []) ih
      have happend := splitMarks_append hfirst hmark
      rw [List.append_nil] at happend
      rwa [joinWith, List.append_assoc]

end Text

/-- The path that a text spells: `::` in front makes it absolute, and every other `::` ends a
segment. -/
def Source.NamePath.ofText (text : String) : NamePath :=
  match Text.dropFront? QualifiedName.mark text.toList with
  | some rest => ⟨true, (Text.splitMarks rest).map String.ofList⟩
  | none => ⟨false, (Text.splitMarks text.toList).map String.ofList⟩

section Spelling

open QualifiedName Text

variable {segments : List String}

theorem splitMarks_ofSegments (hne : segments ≠ []) (h : ∀ s ∈ segments, ':' ∉ s.toList) :
    (splitMarks (ofSegments segments).toList).map String.ofList = segments := by
  rw [toList_ofSegments, splitMarks_joinWith (by simpa using hne) (by simpa using h), List.map_map]
  simp [Function.comp_def]

theorem Source.NamePath.ofText_absolute (hne : segments ≠ []) (h : ∀ s ∈ segments, ':' ∉ s.toList) :
    NamePath.ofText ("::" ++ ofSegments segments) = ⟨true, segments⟩ := by
  have hdrop : dropFront? mark ("::" ++ ofSegments segments).toList =
      some (ofSegments segments).toList := by
    rw [String.toList_append]
    exact dropFront?_eq_some_iff.2 rfl
  rw [ofText, hdrop]
  exact congrArg (NamePath.mk true) (splitMarks_ofSegments hne h)

theorem Source.NamePath.ofText_ofSegments {first : String} (hfirst : first ≠ "")
    (h : ∀ s ∈ first :: segments, ':' ∉ s.toList) :
    NamePath.ofText (ofSegments (first :: segments)) = ⟨false, first :: segments⟩ := by
  have hdrop : dropFront? mark (ofSegments (first :: segments)).toList = none := by
    obtain ⟨c, cs, hcs⟩ := List.exists_cons_of_ne_nil (mt String.toList_eq_nil_iff.1 hfirst)
    obtain ⟨rest, hrest, -⟩ := joinWith_cases first.toList (segments.map String.toList)
    have hcolon : ':' ≠ c := by
      have hnot := h first List.mem_cons_self
      rw [hcs] at hnot
      exact List.ne_of_not_mem_cons hnot
    rw [toList_ofSegments, List.map_cons, hrest, hcs]
    exact dropFront?_eq_none hcolon
  rw [ofText, hdrop]
  exact congrArg (NamePath.mk false) (splitMarks_ofSegments (List.cons_ne_nil _ _) h)

end Spelling

namespace Resolver

open QualifiedName Text

variable {r : Resolver} {home : String} {segments : List String}

theorem toList_inside {base : String} (hbase : base ≠ "") (segments : List String) :
    (inside base segments).toList =
      base.toList ++ segments.flatMap fun s => mark ++ s.toList := by
  induction segments generalizing base with
  | nil => simp [inside]
  | cons s rest ih =>
    have hjoin : join base s = base ++ "::" ++ s := if_neg (by simpa using hbase)
    have hne : join base s ≠ "" := by
      rw [hjoin]
      simp
    calc (inside base (s :: rest)).toList
        = (inside (join base s) rest).toList := rfl
      _ = (join base s).toList ++ rest.flatMap fun s => mark ++ s.toList := ih hne
      _ = base.toList ++ (s :: rest).flatMap fun s => mark ++ s.toList := by
        rw [hjoin, List.flatMap_cons]
        simp [mark]

/-- What follows the name of a crate at the beginning of a path is made of the last segments. -/
theorem exists_of_below?_ofSegments {base : String} {rest : List Char} (hne : segments ≠ [])
    (hsegments : ∀ s ∈ segments, IsSegment s)
    (h : below? base (ofSegments segments) = some rest) :
    base ≠ "" ∧ ∃ back : List String, (∀ s ∈ back, s ∈ segments) ∧
      rest = back.flatMap fun s => mark ++ s.toList := by
  obtain ⟨hname, hrest⟩ := below?_eq_some_iff.1 h
  have hpieces : ∀ piece ∈ segments.map String.toList, piece ≠ [] ∧ ':' ∉ piece := by
    intro piece hpiece
    obtain ⟨s, hs, rfl⟩ := List.mem_map.1 hpiece
    exact ⟨(hsegments s hs).ne_nil, (hsegments s hs).colon_not_mem⟩
  rw [toList_ofSegments] at hname
  rcases hrest with rfl | ⟨after, rfl⟩
  · refine ⟨?_, [], List.forall_mem_nil _, rfl⟩
    rintro rfl
    have hnil := (joinWith_eq_nil_iff fun piece hp => (hpieces piece hp).1).1 hname
    exact hne (List.map_eq_nil_iff.1 hnil)
  · -- the mark stands at a joint of the path, since no segment has a colon
    obtain ⟨front, last, hfront, hlast, heq, hbase, hafter⟩ := exists_append_of_joinWith
      (fun piece hp => (hpieces piece hp).1) (fun piece hp => (hpieces piece hp).2) hname
    obtain ⟨before, back, rfl, rfl, rfl⟩ := List.map_eq_append_iff.1 heq
    refine ⟨?_, back, fun s hs => List.mem_append_right _ hs, ?_⟩
    · rintro rfl
      have hnil := (joinWith_eq_nil_iff fun piece hp =>
        (hpieces piece (List.map_append ▸ List.mem_append_left _ hp)).1).1 hbase.symm
      exact hfront hnil
    · obtain ⟨s, back, rfl⟩ := List.exists_cons_of_ne_nil (by simpa using hlast)
      rw [hafter, List.map_cons]
      change mark ++ joinWith mark _ = _
      rw [joinWith_cons, List.flatMap_cons, List.flatMap_map, List.append_assoc]

theorem isSome_below?_ofSegments {front : List String} (hfront : front ≠ [])
    (hstart : front <+: segments) :
    (below? (ofSegments front) (ofSegments segments)).isSome = true := by
  obtain ⟨back, rfl⟩ := hstart
  obtain ⟨first, front, rfl⟩ := List.exists_cons_of_ne_nil hfront
  obtain ⟨rest, hrest, hcases⟩ := joinWith_cases [] (back.map String.toList)
  have hname : (ofSegments (first :: front ++ back)).toList =
      (ofSegments (first :: front)).toList ++ rest := by
    rw [joinWith_cons, List.nil_append, List.nil_append] at hrest
    rw [toList_ofSegments, toList_ofSegments, List.cons_append, List.map_cons, List.map_cons,
      List.map_append, joinWith_cons, joinWith_cons, List.flatMap_append, hrest, List.append_assoc]
  rw [below?_eq_some_iff.2 ⟨hname, hcases⟩]
  rfl

/-- A name of at least two segments is what its written form means, in any scopes. It may lie in the
crate, or begin with a segment that has no meaning of its own. -/
theorem resolvePath_fromCrate (r : Resolver) (home : String) (hlength : 2 ≤ segments.length)
    (hsegments : ∀ s ∈ segments, IsSegment s)
    (hroot : (∃ front, front ≠ [] ∧ front <+: segments ∧ r.crateName = ofSegments front) ∨
      ∀ root ∈ relativeRoots, segments.head? ≠ some root) :
    r.resolvePath home (.ofText (fromCrate r.crateName (ofSegments segments))) =
      ofSegments segments := by
  have hne : segments ≠ [] := List.ne_nil_of_length_pos (by omega)
  cases h : below? r.crateName (ofSegments segments) with
  | some rest =>
    obtain ⟨hbase, back, hback, rfl⟩ := exists_of_below?_ofSegments hne hsegments h
    -- inside the crate: `crate` and the segments that follow its name
    have htext : fromCrate r.crateName (ofSegments segments) = ofSegments ("crate" :: back) := by
      apply String.toList_injective
      rw [fromCrate_of_below h, toList_ofSegments, List.map_cons, joinWith_cons, List.flatMap_map]
    have hcolons : ∀ s ∈ "crate" :: back, ':' ∉ s.toList :=
      List.forall_mem_cons.2 ⟨by decide, fun s hs => (hsegments s (hback s hs)).colon_not_mem⟩
    rw [htext, NamePath.ofText_ofSegments (by decide) hcolons]
    apply String.toList_injective
    rw [(below?_eq_some_iff.1 h).1]
    exact toList_inside hbase back
  | none =>
    -- outside of it: an absolute path
    have hfree : ∀ root ∈ relativeRoots, segments.head? ≠ some root := by
      rcases hroot with ⟨front, hfront, hstart, hcrate⟩ | hfree
      · have hsome := isSome_below?_ofSegments hfront hstart
        rw [← hcrate, h] at hsome
        cases hsome
      · exact hfree
    obtain ⟨first, tail, rfl⟩ := List.exists_cons_of_ne_nil hne
    have htail : tail ≠ [] := List.ne_nil_of_length_pos (Nat.le_of_succ_le_succ hlength)
    obtain ⟨second, rest, rfl⟩ := List.exists_cons_of_ne_nil htail
    have hfirst : first ∉ relativeRoots := fun hmem => hfree first hmem rfl
    rw [fromCrate_of_not_below h, absolute_ofSegments hsegments hfirst,
      NamePath.ofText_absolute hne fun s hs => (hsegments s hs).colon_not_mem]
    rfl

/-- A crate in which a module has the names of other crates for its own: as modules inside it, as
items and as imports. -/
def shadowing : Resolver where
  crateName := "bot"
  scopes := [
    ("bot::views", {
      imports := [("porbeagle", ["decoy"]), ("bot", ["decoy"]), ("crate", ["decoy"])]
      globs := [["decoy"]]
      locals := ["porbeagle", "models"] }),
    ("bot::views::bot", .empty),
    ("bot::views::porbeagle", .empty)]
  known := .ofList ["decoy::porbeagle", "decoy::models"]

/-- As it stands, the name of a crate would mean the module inside; its written form does not. -/
theorem resolvePath_fromCrate_shadowing :
    shadowing.resolvePath "bot::views" ⟨false, ["porbeagle", "Embed"]⟩ =
        "bot::views::porbeagle::Embed" ∧
      shadowing.resolvePath "bot::views"
          (.ofText (fromCrate "bot" (ofSegments ["porbeagle", "Embed"]))) =
        ofSegments ["porbeagle", "Embed"] ∧
      shadowing.resolvePath "bot::views" ⟨false, ["bot", "models", "User"]⟩ =
        "bot::views::bot::models::User" ∧
      shadowing.resolvePath "bot::views"
          (.ofText (fromCrate "bot" (ofSegments ["bot", "models", "User"]))) =
        ofSegments ["bot", "models", "User"] :=
  ⟨rfl, resolvePath_fromCrate shadowing "bot::views" (by decide) (by decide) (.inr (by decide)),
    rfl, resolvePath_fromCrate shadowing "bot::views" (by decide) (by decide)
      (.inl ⟨["bot"], by decide, by decide, rfl⟩)⟩

end Resolver

end ViewCompanion
