import ViewCompanion.Artifact.Path
import ViewCompanion.Proofs.Name

namespace ViewCompanion

namespace Text

def isSegment (s : String) : Bool :=
  !s.isEmpty && s.toList.all fun c => isAlphanumeric c || c == '_'

/-- A segment of a path: letters, numbers and `_`, at least one of them. -/
def IsSegment (s : String) : Prop := isSegment s = true

instance : DecidablePred IsSegment := fun s => inferInstanceAs (Decidable (isSegment s = true))

theorem IsSegment.ne_nil {s : String} (h : IsSegment s) : s.toList ≠ [] := by
  have hempty := (Bool.and_eq_true_iff.1 h).1
  simpa using hempty

theorem IsSegment.cases {s : String} (h : IsSegment s) {c : Char} (hc : c ∈ s.toList) :
    isAlphanumeric c = true ∨ c = '_' := by
  have hall := List.all_eq_true.1 (Bool.and_eq_true_iff.1 h).2 c hc
  simpa using hall

theorem IsSegment.colon_not_mem {s : String} (h : IsSegment s) : ':' ∉ s.toList := by
  intro hmem
  rcases h.cases hmem with hcolon | hcolon
  · exact absurd hcolon (by decide)
  · exact absurd hcolon (by decide)

end Text

namespace QualifiedName

open Text (IsSegment)

variable {name : QualifiedName} {segments : List String} {rest : List Char}

theorem toList_ofSegments (segments : List String) :
    (ofSegments segments).toList = Text.joinWith mark (segments.map String.toList) :=
  String.toList_ofList

/-- A text without colons is known from what begins with it and goes on with `::`. -/
theorem head?_splitAt {first : List Char} (hfirst : ':' ∉ first)
    (hrest : rest = [] ∨ mark <+: rest) :
    (Text.splitAt ':' (first ++ rest)).head? = some first := by
  rcases hrest with rfl | ⟨back, rfl⟩
  · rw [List.append_nil, Text.splitAt_of_not_mem hfirst]
    rfl
  · have hcut : Text.splitAt ':' (first ++ ':' :: ':' :: back) =
        Text.splitAt ':' first ++ Text.splitAt ':' (':' :: back) :=
      Text.splitAt_append_mark first (':' :: back)
    rw [Text.splitAt_of_not_mem hfirst] at hcut
    exact congrArg List.head? hcut

theorem joinWith_cases (first : List Char) (pieces : List (List Char)) :
    ∃ rest, Text.joinWith mark (first :: pieces) = first ++ rest ∧ (rest = [] ∨ mark <+: rest) := by
  refine ⟨_, Text.joinWith_cons mark first pieces, ?_⟩
  cases pieces with
  | nil => exact .inl rfl
  | cons second pieces =>
    rw [List.flatMap_cons, List.append_assoc]
    exact .inr (List.prefix_append _ _)

theorem eq_of_below?_ofSegments {base first : String} (hbase : ':' ∉ base.toList)
    (hfirst : ':' ∉ first.toList) (h : below? base (ofSegments (first :: segments)) = some rest) :
    base = first := by
  obtain ⟨hname, hrest⟩ := below?_eq_some_iff.1 h
  obtain ⟨tail, htail, hcases⟩ := joinWith_cases first.toList (segments.map String.toList)
  have hboth : base.toList ++ rest = first.toList ++ tail := by
    rw [← hname, toList_ofSegments, ← htail]
    rfl
  have hhead := head?_splitAt hbase hrest
  rw [hboth, head?_splitAt hfirst hcases] at hhead
  exact String.toList_injective (Option.some.inj hhead).symm

theorem isRelative_ofSegments {first : String} (hfirst : IsSegment first)
    (hroot : first ∉ relativeRoots) : isRelative (ofSegments (first :: segments)) = false := by
  have hcolons : ∀ root ∈ relativeRoots, ':' ∉ root.toList := by decide
  unfold isRelative
  rw [List.any_eq_false]
  intro root hmem
  cases h : below? root (ofSegments (first :: segments)) with
  | none => simp
  | some rest =>
    obtain rfl := eq_of_below?_ofSegments (hcolons root hmem) hfirst.colon_not_mem h
    exact absurd hmem hroot

theorem all_isPathChar_ofSegments (h : ∀ s ∈ segments, IsSegment s) :
    (ofSegments segments).toList.all isPathChar = true := by
  rw [List.all_eq_true]
  intro c hc
  rw [toList_ofSegments] at hc
  unfold isPathChar
  rcases Text.mem_joinWith hc with hmark | ⟨piece, hpiece, hmem⟩
  · have hcolon : c = ':' := by simpa [mark] using hmark
    simp [hcolon]
  · obtain ⟨s, hs, rfl⟩ := List.mem_map.1 hpiece
    rcases (h s hs).cases hmem with hletter | hletter <;> simp [hletter]

/-- A path whose first segment has no meaning of its own is taken for one into another crate. -/
theorem absolute_ofSegments {first second : String}
    (h : ∀ s ∈ first :: second :: segments, IsSegment s) (hroot : first ∉ relativeRoots) :
    absolute (ofSegments (first :: second :: segments)) =
      "::" ++ ofSegments (first :: second :: segments) := by
  have hfirst : IsSegment first := h first List.mem_cons_self
  have hcut : (Text.cutFirst? mark
      (ofSegments (first :: second :: segments)).toList).isNone = false := by
    rw [toList_ofSegments, List.map_cons, List.map_cons, Text.joinWith, List.append_assoc,
      mark, Text.cutFirst?_append hfirst.colon_not_mem]
    rfl
  unfold absolute
  rw [all_isPathChar_ofSegments h, isRelative_ofSegments hfirst hroot, hcut]
  rfl

theorem absolute_cases (name : QualifiedName) :
    absolute name = name ∨ absolute name = "::" ++ name := by
  unfold absolute
  split
  · exact .inl rfl
  · exact .inr rfl

/-- A path that begins with a segment with a meaning of its own stays as it is. -/
theorem absolute_of_below {root : String} (hroot : root ∈ relativeRoots)
    (h : below? root name = some rest) : absolute name = name := by
  have hrelative : isRelative name = true := List.any_eq_true.2 ⟨root, hroot, by rw [h]; rfl⟩
  unfold absolute
  rw [hrelative, Bool.or_true, Bool.true_or]
  rfl

theorem fromCrate_of_below {crateName : String} (h : below? crateName name = some rest) :
    (fromCrate crateName name).toList = "crate".toList ++ rest := by
  rw [fromCrate, h]
  simp

theorem fromCrate_of_not_below {crateName : String} (h : below? crateName name = none) :
    fromCrate crateName name = absolute name := by
  rw [fromCrate, h]

/-- How a path is to be written: from `crate` if it leads into the crate, and never from the top
with the name of the crate. -/
structure IsWritten (crateName : String) (name : QualifiedName) (text : String) : Prop where
  inside : ∀ rest, below? crateName name = some rest → text = "crate" ++ String.ofList rest
  outside : ¬ mark <+: name.toList → ¬ ("::" ++ crateName ++ "::").toList <+: text.toList

theorem isWritten_fromCrate (crateName : String) (name : QualifiedName) :
    IsWritten crateName name (fromCrate crateName name) where
  inside rest h := by
    rw [fromCrate, h]
  outside hname hstart := by
    cases h : below? crateName name with
    | some rest =>
      rw [fromCrate_of_below h] at hstart
      simp at hstart
    | none =>
      rw [fromCrate_of_not_below h] at hstart
      rcases absolute_cases name with hsame | hmark
      · rw [hsame, String.append_assoc, String.toList_append] at hstart
        exact hname ((List.prefix_append _ _).trans hstart)
      · -- what follows the mark begins with the name of the crate, so it lies in the crate
        rw [hmark] at hstart
        simp only [String.append_assoc, String.toList_append] at hstart
        rw [List.prefix_append_right_inj] at hstart
        obtain ⟨back, hback⟩ := hstart
        have hbelow : below? crateName name = some (mark ++ back) := by
          refine below?_eq_some_iff.2 ⟨?_, .inr (List.prefix_append _ _)⟩
          rw [← hback, List.append_assoc]
          rfl
        rw [h] at hbelow
        cases hbelow

end QualifiedName

end ViewCompanion
