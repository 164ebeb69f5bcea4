import ViewCompanion.Name
import ViewCompanion.Proofs.Text.Joining
import ViewCompanion.Text.Identifier

namespace ViewCompanion

namespace Text

def IsName (s : String) : Prop := isName s = true

instance : DecidablePred IsName := fun s => inferInstanceAs (Decidable (isName s = true))

theorem IsName.cases {s : String} (h : IsName s) : isIdentifier s.toList = true ∨
    ∃ rest, s.toList = 'r' :: '#' :: rest ∧ isIdentifier rest = true := by
  unfold IsName isName at h
  split at h
  · rename_i rest hs
    exact .inr ⟨rest, hs, h⟩
  · exact .inl h

theorem IsName.ne_nil {s : String} (h : IsName s) : s.toList ≠ [] := by
  intro hnil
  rcases h.cases with h | ⟨rest, hs, -⟩
  · rw [hnil] at h
    cases h
  · rw [hnil] at hs
    cases hs

theorem continue_of_mem_identifier {c : Char} {s : List Char} (hs : isIdentifier s = true)
    (hc : c ∈ s) : isIdentifierContinue c = true := by
  cases s with
  | nil => cases hc
  | cons first rest =>
    rw [isIdentifier, Bool.and_eq_true, List.all_eq_true] at hs
    rcases List.mem_cons.1 hc with rfl | hc
    · exact isIdentifierContinue_of_start hs.1
    · exact hs.2 c hc

/-- No character can stand in a name but those of identifiers and the sign of a raw one. -/
theorem IsName.not_mem {s : String} (h : IsName s) {c : Char}
    (hc : isIdentifierContinue c = false) (hsharp : c ≠ '#') : c ∉ s.toList := by
  intro hmem
  rcases h.cases with h | ⟨rest, hs, h⟩
  · rw [continue_of_mem_identifier h hmem] at hc
    cases hc
  · rw [hs] at hmem
    rcases List.mem_cons.1 hmem with rfl | hmem
    · exact absurd hc (by decide)
    · rcases List.mem_cons.1 hmem with rfl | hmem
      · exact hsharp rfl
      · rw [continue_of_mem_identifier h hmem] at hc
        cases hc

def isPosition (s : String) : Bool :=
  !s.isEmpty && s.toList.all isAsciiDigit

/-- What source code calls a member: a name or, where there is none, its position. -/
def IsLabel (s : String) : Prop := (isName s || isPosition s) = true

instance : DecidablePred IsLabel := fun s =>
  inferInstanceAs (Decidable ((isName s || isPosition s) = true))

theorem IsLabel.not_mem {s : String} (h : IsLabel s) {c : Char}
    (hc : isIdentifierContinue c = false) (hsharp : c ≠ '#') : c ∉ s.toList := by
  rcases Bool.or_eq_true_iff.1 h with hname | hposition
  · exact IsName.not_mem hname hc hsharp
  · intro hmem
    have hdigits := List.all_eq_true.1 (Bool.and_eq_true_iff.1 hposition).2
    simp [isIdentifierContinue, hdigits c hmem] at hc

end Text

namespace QualifiedName

theorem mark_not_mem_name {s : String} (h : Text.IsName s) : ∀ c ∈ mark, c ∉ s.toList := by
  have hcolon : ':' ∉ s.toList := h.not_mem (by decide) (by decide)
  simpa [mark] using hcolon

/-- A name in front of which there is a `::` can be told from what stands before. -/
theorem eq_of_append_mark_eq {a b first last : String} (hfirst : Text.IsName first)
    (hlast : Text.IsName last) (h : a ++ "::" ++ first = b ++ "::" ++ last) :
    a = b ∧ first = last := by
  have hne : mark ≠ [] := List.cons_ne_nil _ _
  have htext : a.toList ++ mark ++ first.toList = b.toList ++ mark ++ last.toList := by
    have hcolons : mark = "::".toList := rfl
    rw [hcolons]
    simpa only [String.toList_append] using congrArg String.toList h
  have hcut : some (a.toList, first.toList) = some (b.toList, last.toList) :=
    calc some (a.toList, first.toList)
        = Text.cutLast? mark (a.toList ++ mark ++ first.toList) :=
          (Text.cutLast?_append hne (mark_not_mem_name hfirst) _).symm
      _ = Text.cutLast? mark (b.toList ++ mark ++ last.toList) := by rw [htext]
      _ = some (b.toList, last.toList) :=
          Text.cutLast?_append hne (mark_not_mem_name hlast) _
  obtain ⟨hfront, hback⟩ := Prod.mk.inj (Option.some.inj hcut)
  exact ⟨String.toList_injective hfront, String.toList_injective hback⟩

/-- A path of `segments`, each of them a name. The empty path has none. -/
structure IsPath (path : String) (segments : List String) : Prop where
  names : ∀ s ∈ segments, Text.IsName s
  eq : path = ofSegments segments

/-- The name with every `::` written as `_`. -/
def underscored (name : QualifiedName) : String :=
  String.ofList (Text.replaceAll mark ['_'] name.toList)

namespace IsPath

variable {path : String} {segments : List String}

theorem toList_eq (h : IsPath path segments) :
    path.toList = Text.joinWith mark (segments.map String.toList) := by
  rw [h.eq, ofSegments, String.toList_ofList]

theorem pieces_ne_nil (h : IsPath path segments) :
    ∀ piece ∈ segments.map String.toList, piece ≠ [] := by
  intro piece hpiece
  obtain ⟨s, hs, rfl⟩ := List.mem_map.1 hpiece
  exact (h.names s hs).ne_nil

theorem not_mem_pieces (h : IsPath path segments) {c : Char}
    (hc : Text.isIdentifierContinue c = false) (hsharp : c ≠ '#') :
    ∀ piece ∈ segments.map String.toList, c ∉ piece := by
  intro piece hpiece
  obtain ⟨s, hs, rfl⟩ := List.mem_map.1 hpiece
  exact (h.names s hs).not_mem hc hsharp

theorem not_mem (h : IsPath path segments) {c : Char}
    (hc : Text.isIdentifierContinue c = false) (hsharp : c ≠ '#') (hcolon : c ≠ ':') :
    c ∉ path.toList := by
  intro hmem
  rw [h.toList_eq] at hmem
  rcases Text.mem_joinWith hmem with hmark | ⟨piece, hpiece, hmem⟩
  · exact hcolon (by simpa [mark] using hmark)
  · exact h.not_mem_pieces hc hsharp piece hpiece hmem

theorem not_mem_join (h : IsPath path segments) {label : String} (hlabel : Text.IsLabel label)
    {c : Char} (hc : Text.isIdentifierContinue c = false) (hsharp : c ≠ '#') (hcolon : c ≠ ':') :
    c ∉ (QualifiedName.join path label).toList := by
  have hmark : c ∉ "::".toList := by simpa using hcolon
  have hpath : c ∉ path.toList := h.not_mem hc hsharp hcolon
  unfold QualifiedName.join
  split
  · exact hlabel.not_mem hc hsharp
  · simp only [String.toList_append, List.mem_append, not_or]
    exact ⟨⟨hpath, hmark⟩, hlabel.not_mem hc hsharp⟩

theorem replaceAll_eq (h : IsPath path segments) (new : List Char) :
    Text.replaceAll mark new path.toList = Text.joinWith new (segments.map String.toList) := by
  rw [h.toList_eq]
  exact Text.replaceAll_joinWith (h.not_mem_pieces (by decide) (by decide))

theorem eq_empty_iff (h : IsPath path segments) : path.toList = [] ↔ segments = [] := by
  rw [h.toList_eq, Text.joinWith_eq_nil_iff h.pieces_ne_nil, List.map_eq_nil_iff]

theorem join (h : IsPath path segments) {name : String} (hname : Text.IsName name) :
    IsPath (QualifiedName.join path name) (segments ++ [name]) where
  names s hs := by
    rcases List.mem_append.1 hs with hs | hs
    · exact h.names s hs
    · obtain rfl := List.mem_singleton.1 hs
      exact hname
  eq := by
    apply String.toList_injective
    unfold QualifiedName.join ofSegments
    rw [String.toList_ofList, List.map_append, List.map_singleton]
    by_cases hnil : segments = []
    · have hempty : path.isEmpty = true := by
        simpa using h.eq_empty_iff.2 hnil
      rw [if_pos hempty, hnil]
      rfl
    · have hempty : ¬ path.isEmpty = true := by
        simpa using fun hpath => hnil (h.eq_empty_iff.1 hpath)
      rw [if_neg hempty, Text.joinWith_concat mark (by simpa using hnil), ← h.toList_eq]
      simp [mark]

/-- A path is read back from its form with another mark, if that is in none of its segments. -/
theorem replaceAll_replaceAll (h : IsPath path segments) {c : Char}
    (hfree : ∀ piece ∈ segments.map String.toList, c ∉ piece) :
    Text.replaceAll [c] mark (Text.replaceAll mark [c] path.toList) = path.toList := by
  rw [h.replaceAll_eq, Text.replaceAll_joinWith hfree, ← h.toList_eq]

theorem ofSegments (h : ∀ s ∈ segments, Text.IsName s) :
    IsPath (QualifiedName.ofSegments segments) segments :=
  ⟨h, rfl⟩

theorem parent?_getD (h : IsPath path segments) :
    (parent? path).getD "" = QualifiedName.ofSegments segments.dropLast := by
  have hne : mark ≠ [] := List.cons_ne_nil _ _
  match segments, segments.eq_nil_or_concat with
  | _, .inl rfl =>
    rw [h.eq]
    rfl
  | _, .inr ⟨front, last, rfl⟩ =>
    have hlast : ∀ c ∈ mark, c ∉ last.toList := mark_not_mem_name (h.names last (by simp))
    rw [parent?, h.toList_eq, List.concat_eq_append, List.map_append, List.map_singleton,
      List.dropLast_concat]
    by_cases hfront : front = []
    · rw [hfront, List.map_nil, List.nil_append, Text.joinWith,
        Text.cutLast?_of_not_mem hne hlast]
      rfl
    · rw [Text.joinWith_concat mark (by simpa using hfront), Text.cutLast?_append hne hlast]
      rfl

/-- What follows `::` in a path is a path of the last of its segments. -/
theorem of_append_mark (h : IsPath path segments) {front rest : String}
    (hpath : path = front ++ "::" ++ rest) :
    ∃ last, last ≠ [] ∧ last <:+ segments ∧ IsPath rest last := by
  have hlist : Text.joinWith mark (segments.map String.toList) =
      front.toList ++ (mark ++ rest.toList) := by
    rw [← h.toList_eq, hpath, String.toList_append, String.toList_append, List.append_assoc]
    rfl
  obtain ⟨before, after, -, hafter, hpieces, -, hrest⟩ := Text.exists_append_of_joinWith
    h.pieces_ne_nil (h.not_mem_pieces (by decide) (by decide)) hlist
  obtain ⟨first, last, rfl, rfl, rfl⟩ := List.map_eq_append_iff.1 hpieces
  refine ⟨last, by simpa using hafter, List.suffix_append first last, ?_, ?_⟩
  · exact fun s hs => h.names s (List.mem_append_right first hs)
  · apply String.toList_injective
    rw [hrest, QualifiedName.ofSegments, String.toList_ofList]
    rfl

end IsPath

/-- Without a `_` of its own, a path can be read back from its written form. -/
theorem eq_of_underscored_eq {a b : QualifiedName} {as bs : List String} (ha : IsPath a as)
    (hb : IsPath b bs) (hafree : '_' ∉ a.toList) (hbfree : '_' ∉ b.toList)
    (h : underscored a = underscored b) : a = b := by
  have hread : ∀ {path : String} {segments : List String}, IsPath path segments →
      '_' ∉ path.toList →
      Text.replaceAll ['_'] mark (underscored path).toList = path.toList := by
    intro path segments hpath hfree
    rw [underscored, String.toList_ofList]
    apply hpath.replaceAll_replaceAll
    intro piece hpiece hmem
    exact hfree (hpath.toList_eq ▸ Text.mem_joinWith_of_mem hpiece hmem)
  apply String.toList_injective
  rw [← hread ha hafree, ← hread hb hbfree, h]

/-- A path lies below another one if nothing or a `::` follows that one. -/
theorem below?_eq_some_iff {base name : QualifiedName} {rest : List Char} :
    below? base name = some rest ↔
      name.toList = base.toList ++ rest ∧ (rest = [] ∨ mark <+: rest) := by
  unfold below?
  split
  · rename_i hdrop
    rw [Text.dropFront?_eq_some_iff.1 hdrop, List.append_cancel_left_eq, Option.some.injEq]
    exact ⟨fun h => ⟨h, .inl h.symm⟩, And.left⟩
  · rename_i found hne hdrop
    rw [Text.dropFront?_eq_some_iff.1 hdrop, List.append_cancel_left_eq]
    simp only [List.isPrefixOf_iff_prefix, Option.ite_none_right_eq_some, Option.some.injEq]
    constructor
    · rintro ⟨hmark, rfl⟩
      exact ⟨rfl, .inr hmark⟩
    · rintro ⟨rfl, hnil | hmark⟩
      · exact absurd hnil hne
      · exact ⟨hmark, rfl⟩
  · rename_i hdrop
    constructor
    · exact fun h => nomatch h
    · rintro ⟨hname, -⟩
      rw [Text.dropFront?_eq_some_iff.2 hname] at hdrop
      cases hdrop

end QualifiedName

namespace NameSet

theorem eq_of_mem_iff {s t : NameSet} (h : ∀ name, name ∈ s ↔ name ∈ t) : s = t := by
  have nodup : ∀ u : NameSet, u.toList.Nodup := by
    intro u
    apply u.ascending.imp
    rintro a b hlt rfl
    exact String.lt_irrefl a hlt
  -- the same names in the same order
  have hperm : s.toList.Perm t.toList :=
    (List.perm_ext_iff_of_nodup (nodup s) (nodup t)).2 h
  have hlists : s.toList = t.toList :=
    hperm.eq_of_pairwise (fun _ _ _ _ hab hba => absurd hba (String.lt_asymm hab))
      s.ascending t.ascending
  cases s
  cases t
  exact (NameSet.mk.injEq ..).mpr hlists

theorem ofList_toList (s : NameSet) : ofList s.toList = s :=
  eq_of_mem_iff fun _ => mem_ofList

end NameSet

end ViewCompanion
