import Mathlib.Data.List.TakeWhile
import ViewCompanion.Proofs.Text.Joining
import ViewCompanion.Storage.Path

namespace ViewCompanion.Storage.Path

/-- A name that stands for a file or folder of its own. -/
structure IsPlain (name : String) : Prop where
  ne_empty : name ≠ ""
  ne_dot : name ≠ "."
  ne_dots : name ≠ ".."
  slash_not_mem : '/' ∉ name.toList

/-- A path that goes only inwards. -/
def IsInner (path : String) : Prop :=
  ∀ name ∈ names path, IsPlain name

/-- Where the names lead from `seen` on. -/
def walk (seen : List String) : List String → List String
  | [] => seen
  | name :: rest =>
    if name.isEmpty || name == "." then walk seen rest
    else if name == ".." then walk seen.dropLast rest
    else walk (seen ++ [name]) rest

/-- The names from the outermost folder to where a path leads. -/
def resolved (path : String) : List String :=
  walk [] (names path)

theorem names_ne_nil (path : String) : names path ≠ [] := by
  have hne : Text.splitAt '/' path.toList ≠ [] := Text.splitAt_ne_nil path.toList
  simpa [names] using hne

theorem names_injective : Function.Injective names := by
  intro a b h
  have hofList : Function.Injective String.ofList := fun s t hst => by
    simpa using congrArg String.toList hst
  have hsplit : Text.splitAt '/' a.toList = Text.splitAt '/' b.toList :=
    List.map_injective_iff.2 hofList h
  exact String.toList_injective (Text.splitAt_injective hsplit)

theorem slash_not_mem_of_mem_names {path name : String} (h : name ∈ names path) :
    '/' ∉ name.toList := by
  obtain ⟨piece, hpiece, rfl⟩ := List.mem_map.1 h
  rw [String.toList_ofList]
  exact Text.not_mem_of_mem_splitAt hpiece

theorem names_of_slash_not_mem {name : String} (h : '/' ∉ name.toList) : names name = [name] := by
  rw [names, Text.splitAt_of_not_mem h, List.map_singleton, String.ofList_toList]

theorem names_append_slash (a b : String) : names (a ++ "/" ++ b) = names a ++ names b := by
  have hlist : (a ++ "/" ++ b).toList = a.toList ++ '/' :: b.toList := by simp
  rw [names, hlist, Text.splitAt_append_mark, List.map_append]
  rfl

theorem isPlain_of_length {name : String} (hlength : 3 ≤ name.toList.length)
    (hslash : '/' ∉ name.toList) : IsPlain name := by
  refine ⟨?_, ?_, ?_, hslash⟩ <;> rintro rfl <;> exact absurd hlength (by decide)

theorem splitAt_append_replicate (s : List Char) (k : Nat) :
    Text.splitAt '/' (s ++ List.replicate k '/') = Text.splitAt '/' s ++ List.replicate k [] := by
  induction k generalizing s with
  | zero => simp
  | succ k ih =>
    have hslashes : Text.splitAt '/' (List.replicate k '/') = [] :: List.replicate k [] := ih []
    rw [List.replicate_succ, Text.splitAt_append_mark, hslashes, List.replicate_succ]

/-- The separators at the end of a path only add empty names. -/
theorem eq_trimEnd_append (path : String) : ∃ k,
    path = trimEnd path ++ String.ofList (List.replicate k '/') ∧
      names path = names (trimEnd path) ++ List.replicate k "" := by
  have hsplit := List.takeWhile_append_dropWhile (p := (· == '/')) (l := path.toList.reverse)
  obtain ⟨k, hk⟩ : ∃ k, path.toList.reverse.takeWhile (· == '/') = List.replicate k '/' := by
    refine ⟨_, List.eq_replicate_of_mem fun c hc => ?_⟩
    simpa using List.mem_takeWhile_imp hc
  have hlist : path.toList = (trimEnd path).toList ++ List.replicate k '/' := by
    rw [trimEnd, String.toList_ofList, ← List.reverse_replicate, ← hk, ← List.reverse_append,
      hsplit, List.reverse_reverse]
  refine ⟨k, String.toList_injective (by simpa using hlist), ?_⟩
  rw [names, hlist, splitAt_append_replicate, List.map_append, List.map_replicate]
  rfl

theorem IsPlain.names_eq {name : String} (h : IsPlain name) : names name = [name] :=
  names_of_slash_not_mem h.slash_not_mem

theorem IsPlain.isInner {name : String} (h : IsPlain name) : IsInner name := by
  intro n hn
  rw [h.names_eq, List.mem_singleton] at hn
  exact hn ▸ h

theorem IsPlain.append_rs {name : String} (h : IsPlain name) : IsPlain (name ++ ".rs") := by
  have hlist : (name ++ ".rs").toList = name.toList ++ ['.', 'r', 's'] := String.toList_append
  apply isPlain_of_length
  · rw [hlist, List.length_append]
    exact Nat.le_add_left _ _
  · rw [hlist, List.mem_append]
    exact fun hmem => hmem.elim h.slash_not_mem (by decide)

theorem walk_plain {seen names : List String} (h : ∀ name ∈ names, IsPlain name) :
    walk seen names = seen ++ names := by
  induction names generalizing seen with
  | nil => exact (List.append_nil seen).symm
  | cons name rest ih =>
    have hname : IsPlain name := h name List.mem_cons_self
    have hskip : (name.isEmpty || name == ".") = false := by
      simp [hname.ne_empty, hname.ne_dot]
    have hup : (name == "..") = false := by simp [hname.ne_dots]
    rw [walk, hskip, hup, if_neg Bool.false_ne_true, if_neg Bool.false_ne_true,
      ih fun n hn => h n (List.mem_cons_of_mem _ hn), List.append_assoc, List.singleton_append]

theorem IsInner.not_startsWith {path : String} (h : IsInner path) :
    path.startsWith "/" = false := by
  rw [String.startsWith_string_eq_false_iff]
  rintro ⟨rest, hrest⟩
  have hpath : path = "" ++ "/" ++ String.ofList rest := by
    apply String.toList_injective
    simp [← hrest]
  have hempty : "" ∈ names path := by
    rw [hpath, names_append_slash]
    exact List.mem_append_left _ (List.mem_singleton.2 (by decide))
  exact (h "" hempty).ne_empty rfl

theorem exists_front_of_endsWith {path : String} (h : path.endsWith "/" = true) :
    ∃ front, path = front ++ "/" ++ "" := by
  rw [← String.endsWith_toSlice, String.Slice.endsWith_string_iff] at h
  obtain ⟨front, hfront⟩ := h
  refine ⟨String.ofList front, ?_⟩
  apply String.toList_injective
  simpa using hfront.symm

theorem IsInner.not_endsWith {path : String} (h : IsInner path) : path.endsWith "/" = false := by
  rw [Bool.eq_false_iff]
  intro hends
  obtain ⟨front, hpath⟩ := exists_front_of_endsWith hends
  have hempty : "" ∈ names path := by
    rw [hpath, names_append_slash]
    exact List.mem_append_right _ (List.mem_singleton.2 (by decide))
  exact (h "" hempty).ne_empty rfl

theorem IsInner.ne_empty {path : String} (h : IsInner path) : path ≠ "" := by
  rintro rfl
  exact (h "" (by decide)).ne_empty rfl

theorem join_empty (inner : String) : join "" inner = inner := by
  have hempty : "".isEmpty = true := rfl
  rw [join, hempty, Bool.or_true, if_pos rfl]

/-- Joining puts a separator in between, unless there is one. -/
theorem IsInner.join_cases {outer inner : String} (hinner : IsInner inner) (houter : outer ≠ "") :
    join outer inner = outer ++ "/" ++ inner ∨
      ∃ front, outer = front ++ "/" ++ "" ∧ join outer inner = outer ++ inner := by
  have hempty : outer.isEmpty = false := by simpa using houter
  rw [join, hinner.not_startsWith, hempty]
  simp only [Bool.false_or, Bool.false_eq_true, if_false]
  split
  · rename_i hends
    obtain ⟨front, hfront⟩ := exists_front_of_endsWith hends
    exact .inr ⟨front, hfront, rfl⟩
  · exact .inl rfl

theorem IsInner.join_ne_empty {outer inner : String} (hinner : IsInner inner) :
    join outer inner ≠ "" := by
  intro hjoin
  by_cases houter : outer = ""
  · rw [houter, join_empty] at hjoin
    exact hinner.ne_empty hjoin
  · rcases hinner.join_cases houter with h | ⟨-, -, h⟩
    · simp [hjoin, houter] at h
    · simp [hjoin, houter] at h

theorem IsInner.join_eq {outer inner : String} (houter : IsInner outer) (hinner : IsInner inner) :
    join outer inner = outer ++ "/" ++ inner := by
  have hempty : outer.isEmpty = false := by simpa using houter.ne_empty
  rw [join, hinner.not_startsWith, hempty, houter.not_endsWith]
  rfl

theorem IsInner.names_join {outer inner : String} (houter : IsInner outer)
    (hinner : IsInner inner) : names (join outer inner) = names outer ++ names inner := by
  rw [houter.join_eq hinner, names_append_slash]

theorem IsInner.join {outer inner : String} (houter : IsInner outer) (hinner : IsInner inner) :
    IsInner (join outer inner) := by
  intro name hname
  rw [houter.names_join hinner, List.mem_append] at hname
  exact hname.elim (houter name) (hinner name)

end ViewCompanion.Storage.Path
