import ViewCompanion.Proofs.Storage.Tree

namespace ViewCompanion.FileTree

open Storage

variable {t u : FileTree} {seen path names : List String} {name : String}

theorem folder_of_follow_cons (h : follow t seen (name :: names) = .ok path) :
    t.node? seen = some .folder := by
  unfold follow at h
  rw [node?_eq_folder_iff]
  cases hseen : t.get? seen with
  | none =>
    rw [hseen] at h
    cases h
  | some v =>
    cases v with
    | file content =>
      rw [hseen] at h
      cases h
    | folder entries => exact ⟨entries, rfl⟩

theorem follow_cons_of_folder (h : t.node? seen = some .folder) (name : String)
    (names : List String) : follow t seen (name :: names) =
      if name.isEmpty || name == "." then follow t seen names
      else if name == ".." then
        if seen.isEmpty then .error .notFound else follow t seen.dropLast names
      else follow t (seen ++ [name]) names := by
  obtain ⟨entries, hentries⟩ := node?_eq_folder_iff.1 h
  rw [follow, hentries]

theorem follow_cons_of_not_folder (h : t.node? seen ≠ some .folder) : ∃ trouble,
    ∀ name names, follow t seen (name :: names) = .error trouble := by
  cases hseen : t.get? seen with
  | none => exact ⟨.notFound, fun name names => by rw [follow, hseen]⟩
  | some v =>
    cases v with
    | file content => exact ⟨.notFolder, fun name names => by rw [follow, hseen]⟩
    | folder entries => exact absurd (node?_eq_folder_iff.2 ⟨entries, hseen⟩) h

theorem eq_walk_of_follow (h : follow t seen names = .ok path) : path = Path.walk seen names := by
  induction names generalizing seen with
  | nil => exact (Except.ok.inj h).symm
  | cons name rest ih =>
    rw [follow_cons_of_folder (folder_of_follow_cons h)] at h
    rw [Path.walk]
    split
    · rename_i hskip
      rw [if_pos hskip] at h
      exact ih h
    · rename_i hskip
      rw [if_neg hskip] at h
      split
      · rename_i hup
        rw [if_pos hup] at h
        split at h
        · cases h
        · exact ih h
      · rename_i hup
        rw [if_neg hup] at h
        exact ih h

theorem follow_append (t : FileTree) (seen xs ys : List String) : follow t seen (xs ++ ys) =
    (follow t seen xs).bind fun between => follow t between ys := by
  induction xs generalizing seen with
  | nil => rfl
  | cons name rest ih =>
    by_cases hfolder : t.node? seen = some .folder
    · rw [List.cons_append, follow_cons_of_folder hfolder, follow_cons_of_folder hfolder,
        ih, ih, ih]
      split
      · rfl
      · split
        · split <;> rfl
        · rfl
    · obtain ⟨trouble, htrouble⟩ := follow_cons_of_not_folder hfolder
      rw [List.cons_append, htrouble, htrouble]
      rfl

/-- More folders lead no path elsewhere. -/
theorem follow_mono (hfolders : ∀ p, t.node? p = some .folder → u.node? p = some .folder)
    (h : follow t seen names = .ok path) : follow u seen names = .ok path := by
  induction names generalizing seen with
  | nil => exact h
  | cons name rest ih =>
    have hfolder := folder_of_follow_cons h
    rw [follow_cons_of_folder hfolder] at h
    rw [follow_cons_of_folder (hfolders seen hfolder)]
    split
    · rename_i hskip
      rw [if_pos hskip] at h
      exact ih h
    · rename_i hskip
      rw [if_neg hskip] at h
      split
      · rename_i hup
        rw [if_pos hup] at h
        split
        · rename_i hempty
          rw [if_pos hempty] at h
          cases h
        · rename_i hempty
          rw [if_neg hempty] at h
          exact ih h
      · rename_i hup
        rw [if_neg hup] at h
        exact ih h

/-- Plain names lead to themselves, if what they go through are folders. -/
theorem follow_plain (hplain : ∀ n ∈ names, Path.IsPlain n) (hne : names ≠ [])
    (hparent : t.node? (seen ++ names.dropLast) = some .folder) :
    follow t seen names = .ok (seen ++ names) := by
  induction names generalizing seen with
  | nil => exact absurd rfl hne
  | cons name rest ih =>
    have hname : Path.IsPlain name := hplain name List.mem_cons_self
    have hskip : (name.isEmpty || name == ".") = false := by simp [hname.ne_empty, hname.ne_dot]
    have hup : (name == "..") = false := by simp [hname.ne_dots]
    have hfolder : t.node? seen = some .folder := by
      -- beyond anything else there is no folder
      by_contra hnot
      cases rest with
      | nil => exact hnot (by simpa using hparent)
      | cons other rest =>
        rw [List.dropLast_cons_cons,
          node?_append_of_not_folder hnot (List.cons_ne_nil _ _)] at hparent
        cases hparent
    rw [follow_cons_of_folder hfolder, hskip, hup, if_neg Bool.false_ne_true,
      if_neg Bool.false_ne_true]
    cases rest with
    | nil => rfl
    | cons other rest =>
      have hrest : follow t (seen ++ [name]) (other :: rest) =
          .ok (seen ++ [name] ++ other :: rest) :=
        ih (fun n hn => hplain n (List.mem_cons_of_mem _ hn)) (List.cons_ne_nil _ _)
          (by simpa using hparent)
      rw [hrest, List.append_assoc, List.singleton_append]

/-- The last name of a path stands in a folder that is there. -/
def InFolder (t : FileTree) (path : List String) : Prop :=
  ∀ outer name, path = outer ++ [name] → t.node? outer = some .folder

theorem inFolder_of_follow (hseen : t.InFolder seen) (h : follow t seen names = .ok path) :
    t.InFolder path := by
  induction names generalizing seen with
  | nil => exact Except.ok.inj h ▸ hseen
  | cons name rest ih =>
    have hfolder := folder_of_follow_cons h
    rw [follow_cons_of_folder hfolder] at h
    split at h
    · exact ih hseen h
    · split at h
      · split at h
        · cases h
        · refine ih (fun outer other houter => ?_) h
          -- one step out of a folder that is there
          have hinside : seen = outer ++ [other] ++ seen.drop (outer.length + 1) := by
            have htake : seen.take (outer.length + 1) = outer ++ [other] := by
              have hlen := congrArg List.length houter
              simp only [List.length_dropLast, List.length_append, List.length_singleton] at hlen
              rw [← houter, List.dropLast_eq_take, hlen]
            rw [← htake, List.take_append_drop]
          have hthere : t.node? (outer ++ [other] ++ seen.drop (outer.length + 1)) ≠ none := by
            rw [← hinside, hfolder]
            exact nofun
          exact parent_of_node? (node?_ne_none_of_append hthere)
      · refine ih (fun outer other houter => ?_) h
        obtain ⟨rfl, -⟩ := List.append_inj' houter rfl
        exact hfolder

theorem plain_of_follow (hseen : ∀ n ∈ seen, Path.IsPlain n)
    (hnames : ∀ n ∈ names, '/' ∉ n.toList) (h : follow t seen names = .ok path) :
    ∀ n ∈ path, Path.IsPlain n := by
  induction names generalizing seen with
  | nil => exact Except.ok.inj h ▸ hseen
  | cons name rest ih =>
    have hrest : ∀ n ∈ rest, '/' ∉ n.toList := fun n hn => hnames n (List.mem_cons_of_mem _ hn)
    rw [follow_cons_of_folder (folder_of_follow_cons h)] at h
    split at h
    · exact ih hseen hrest h
    · rename_i hskip
      split at h
      · split at h
        · cases h
        · exact ih (fun n hn => hseen n (List.dropLast_subset _ hn)) hrest h
      · rename_i hup
        refine ih (fun n hn => ?_) hrest h
        rcases List.mem_append.1 hn with hn | hn
        · exact hseen n hn
        · obtain rfl := List.mem_singleton.1 hn
          simp only [Bool.or_eq_true, String.isEmpty_iff, beq_iff_eq, not_or] at hskip
          exact ⟨hskip.1, hskip.2, by simpa using hup, hnames n List.mem_cons_self⟩

theorem follow_ne_isFolder : follow t seen names ≠ .error .isFolder := by
  induction names generalizing seen with
  | nil => exact nofun
  | cons name rest ih =>
    rw [follow]
    split
    · exact nofun
    · exact nofun
    · split
      · exact ih
      · split
        · split
          · exact nofun
          · exact ih
        · exact ih

section Locate

variable {folder inner : String} {dir p : List String}

theorem locate_eq_ok_iff : t.locate folder = .ok dir ↔
    folder ≠ "" ∧ folder.startsWith "/" = false ∧ follow t [] (Path.names folder) = .ok dir := by
  unfold locate
  by_cases hempty : folder = ""
  · simp [hempty]
  · cases hslash : folder.startsWith "/" <;> simp [hempty]

theorem locate_eq_resolved (h : t.locate folder = .ok dir) : dir = Path.resolved folder :=
  eq_walk_of_follow (locate_eq_ok_iff.1 h).2.2

theorem locate_mono (hfolders : ∀ p, t.node? p = some .folder → u.node? p = some .folder)
    (h : t.locate folder = .ok dir) : u.locate folder = .ok dir := by
  obtain ⟨hempty, hslash, hfollow⟩ := locate_eq_ok_iff.1 h
  exact locate_eq_ok_iff.2 ⟨hempty, hslash, follow_mono hfolders hfollow⟩

theorem inFolder_of_locate (h : t.locate folder = .ok dir) : t.InFolder dir :=
  inFolder_of_follow (fun outer name houter => by simp at houter) (locate_eq_ok_iff.1 h).2.2

theorem plain_of_locate (h : t.locate folder = .ok dir) : ∀ n ∈ dir, Path.IsPlain n :=
  plain_of_follow (by simp) (fun _ hn => Path.slash_not_mem_of_mem_names hn)
    (locate_eq_ok_iff.1 h).2.2

theorem follow_replicate_empty (h : t.node? seen = some .folder) (k : Nat) :
    follow t seen (List.replicate k "") = .ok seen := by
  induction k with
  | zero => rfl
  | succ k ih =>
    rw [List.replicate_succ, follow_cons_of_folder h]
    exact ih

theorem follow_empty_name_bind (xs : List String) (hxs : xs ≠ []) :
    ((follow t seen [""]).bind fun between => follow t between xs) = follow t seen xs := by
  by_cases hfolder : t.node? seen = some .folder
  · rw [follow_cons_of_folder hfolder]
    rfl
  · obtain ⟨trouble, htrouble⟩ := follow_cons_of_not_folder hfolder
    obtain ⟨name, rest, rfl⟩ := List.exists_cons_of_ne_nil hxs
    rw [htrouble, htrouble]
    rfl

theorem startsWith_append {a : String} (b : String) (ha : a ≠ "") :
    (a ++ b).startsWith "/" = a.startsWith "/" := by
  rw [Bool.eq_iff_iff, String.startsWith_string_iff, String.startsWith_string_iff,
    String.toList_append]
  obtain ⟨c, cs, hcs⟩ := List.exists_cons_of_ne_nil (l := a.toList) (by simpa using ha)
  have hslash : "/".toList = ['/'] := rfl
  rw [hcs, hslash, List.cons_append, List.cons_prefix_cons, List.cons_prefix_cons]
  simp

/-- To a folder the path without separators at its end leads as well. -/
theorem locate_of_locate_trimEnd (h : t.locate (Path.trimEnd folder) = .ok dir)
    (hdir : t.node? dir = some .folder) : t.locate folder = .ok dir := by
  obtain ⟨hempty, hslash, hfollow⟩ := locate_eq_ok_iff.1 h
  obtain ⟨k, hpath, hnames⟩ := Path.eq_trimEnd_append folder
  refine locate_eq_ok_iff.2 ⟨?_, ?_, ?_⟩
  · intro hfolder
    rw [hfolder] at hempty
    exact hempty rfl
  · rw [hpath, startsWith_append _ hempty, hslash]
  · rw [hnames, follow_append, hfollow]
    exact follow_replicate_empty hdir k

theorem follow_names_join (hfolder : folder ≠ "") (hinner : Path.IsInner inner) :
    follow t seen (Path.names (Path.join folder inner)) =
      (follow t seen (Path.names folder)).bind fun dir => follow t dir (Path.names inner) := by
  rcases hinner.join_cases hfolder with hjoin | ⟨front, rfl, hjoin⟩
  · rw [hjoin, Path.names_append_slash, follow_append]
  · -- the name behind the last separator is empty
    have hnames : Path.names "" = [""] := by decide
    have hwhole : Path.join (front ++ "/" ++ "") inner = front ++ "/" ++ inner := by
      rw [hjoin, String.append_empty]
    rw [hwhole, Path.names_append_slash, Path.names_append_slash, follow_append, follow_append,
      hnames]
    cases follow t seen (Path.names front) with
    | error trouble => rfl
    | ok between => exact (follow_empty_name_bind _ (Path.names_ne_nil inner)).symm

/-- The way to something inside a folder begins with the way to the folder. -/
theorem locate_join (hfolder : folder ≠ "") (hinner : Path.IsInner inner) :
    t.locate (Path.join folder inner) =
      (t.locate folder).bind fun dir => follow t dir (Path.names inner) := by
  have hne : folder.isEmpty = false := by simpa using hfolder
  obtain ⟨rest, hrest⟩ : ∃ rest, Path.join folder inner = folder ++ rest := by
    rcases hinner.join_cases hfolder with hjoin | ⟨-, -, hjoin⟩
    · exact ⟨"/" ++ inner, hjoin.trans (String.append_assoc ..)⟩
    · exact ⟨inner, hjoin⟩
  have hempty : (Path.join folder inner).isEmpty = false := by simp [hrest, hfolder]
  have hslash : (Path.join folder inner).startsWith "/" = folder.startsWith "/" := by
    rw [hrest, startsWith_append _ hfolder]
  unfold locate
  rw [hempty, hslash, hne]
  cases folder.startsWith "/" with
  | true => rfl
  | false => exact follow_names_join hfolder hinner

variable (hdir : t.locate folder = .ok dir) (hinner : Path.IsInner inner)

include hdir hinner

theorem locate_join_of_locate :
    t.locate (Path.join folder inner) = follow t dir (Path.names inner) := by
  rw [locate_join (locate_eq_ok_iff.1 hdir).1 hinner, hdir]
  rfl

theorem eq_of_locate_join (h : t.locate (Path.join folder inner) = .ok p) :
    p = dir ++ Path.names inner := by
  rw [locate_join_of_locate hdir hinner] at h
  rw [eq_walk_of_follow h, Path.walk_plain hinner]

theorem locate_join_of_node? (h : t.node? (dir ++ Path.names inner) ≠ none) :
    t.locate (Path.join folder inner) = .ok (dir ++ Path.names inner) := by
  have hne := Path.names_ne_nil inner
  rw [locate_join_of_locate hdir hinner]
  apply follow_plain hinner hne
  rw [← List.dropLast_append_getLast hne, ← List.append_assoc] at h
  exact parent_of_node? h

theorem find_join_eq_ok_iff :
    t.find (Path.join folder inner) = .ok u ↔ t.get? (dir ++ Path.names inner) = some u := by
  constructor
  · intro h
    cases hlocate : t.locate (Path.join folder inner) with
    | error trouble =>
      simp only [find, hlocate] at h
      cases h
    | ok p =>
      obtain rfl := eq_of_locate_join hdir hinner hlocate
      simp only [find, hlocate, bind, Except.bind] at h
      cases hget : t.get? (dir ++ Path.names inner) with
      | none =>
        rw [hget] at h
        cases h
      | some v =>
        rw [hget] at h
        exact congrArg some (Except.ok.inj h)
  · intro h
    have hlocate := locate_join_of_node? hdir hinner (by simp [node?, h])
    simp only [find, hlocate, bind, Except.bind, h]

end Locate

end ViewCompanion.FileTree
