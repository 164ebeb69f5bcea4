import Mathlib.Data.List.Basic
import ViewCompanion.Proofs.Storage.Path
import ViewCompanion.Storage.Tree

namespace ViewCompanion.FileTree

open Storage

abbrev Entries := List (String × FileTree)

inductive Node
  | file (content : ByteArray)
  | folder

def node : FileTree → Node
  | file content => .file content
  | folder _ => .folder

def node? (t : FileTree) (path : List String) : Option Node :=
  (t.get? path).map node

def fileAt? (t : FileTree) (path : List String) : Option ByteArray :=
  match t.node? path with
  | some (.file content) => some content
  | _ => none

theorem fileAt?_eq_some_iff {t : FileTree} {path : List String} {content : ByteArray} :
    t.fileAt? path = some content ↔ t.node? path = some (.file content) := by
  unfold fileAt?
  cases t.node? path with
  | none => simp
  | some n => cases n <;> simp

theorem node?_eq_folder_iff {t : FileTree} {path : List String} :
    t.node? path = some .folder ↔ ∃ entries, t.get? path = some (folder entries) := by
  unfold node?
  cases t.get? path with
  | none => simp
  | some u => cases u <;> simp [node]

section Lookup

theorem get?_append (t : FileTree) (p q : List String) :
    t.get? (p ++ q) = (t.get? p).bind fun u => u.get? q := by
  induction p generalizing t with
  | nil => rfl
  | cons name rest ih =>
    cases t with
    | file content => rfl
    | folder entries =>
      simp only [List.cons_append, get?]
      cases entryNamed? name entries with
      | none => rfl
      | some u => exact ih u

theorem node?_append (t : FileTree) (p q : List String) :
    t.node? (p ++ q) = (t.get? p).bind fun u => u.node? q := by
  unfold node?
  rw [get?_append]
  cases t.get? p <;> rfl

/-- Whatever is not at the top stands in a folder. -/
theorem parent_of_node? {t : FileTree} {path : List String} {name : String}
    (h : t.node? (path ++ [name]) ≠ none) : t.node? path = some .folder := by
  rw [node?_append] at h
  rw [node?_eq_folder_iff]
  cases hp : t.get? path with
  | none =>
    rw [hp] at h
    exact absurd rfl h
  | some u =>
    cases u with
    | file content =>
      rw [hp] at h
      exact absurd rfl h
    | folder entries => exact ⟨entries, rfl⟩

theorem node?_ne_none_of_append {t : FileTree} {p q : List String} (h : t.node? (p ++ q) ≠ none) :
    t.node? p ≠ none := by
  intro hnone
  rw [node?, Option.map_eq_none_iff] at hnone
  rw [node?_append, hnone] at h
  exact h rfl

theorem node?_append_of_not_folder {t : FileTree} {p q : List String}
    (h : t.node? p ≠ some .folder) (hq : q ≠ []) : t.node? (p ++ q) = none := by
  rw [node?_append]
  cases hp : t.get? p with
  | none => rfl
  | some u =>
    cases u with
    | file content =>
      cases q with
      | nil => exact absurd rfl hq
      | cons name rest => rfl
    | folder entries => exact absurd (node?_eq_folder_iff.2 ⟨entries, hp⟩) h

theorem entryNamed?_setEntry (name other : String) (u : FileTree) (entries : Entries) :
    entryNamed? other (setEntry name u entries) =
      if other = name then some u else entryNamed? other entries := by
  induction entries with
  | nil => simp [setEntry, entryNamed?, eq_comm]
  | cons first rest ih =>
    obtain ⟨firstName, v⟩ := first
    rw [setEntry]
    split
    · rename_i hfirst
      subst hfirst
      by_cases h : other = firstName
      · simp [entryNamed?, h]
      · simp [entryNamed?, h, Ne.symm h]
    · split
      · by_cases h : other = name
        · simp [entryNamed?, h]
        · simp [entryNamed?, h, Ne.symm h]
      · rename_i hfirst _
        by_cases h : firstName = other
        · have hne : other ≠ name := h ▸ hfirst
          simp [entryNamed?, h, hne]
        · simp [entryNamed?, h, ih]

theorem entryNamed?_filter_ne (name other : String) (entries : Entries) :
    entryNamed? other (entries.filter fun e => e.1 != name) =
      if other = name then none else entryNamed? other entries := by
  induction entries with
  | nil => simp [entryNamed?]
  | cons first rest ih =>
    obtain ⟨firstName, v⟩ := first
    by_cases hfirst : firstName = name
    · rw [List.filter_cons_of_neg (by simpa using hfirst), ih]
      by_cases h : other = name
      · rw [if_pos h, if_pos h]
      · have hne : firstName ≠ other := fun heq => h (heq ▸ hfirst)
        simp [entryNamed?, h, hne]
    · rw [List.filter_cons_of_pos (by simpa using hfirst)]
      by_cases h : firstName = other
      · have hne : other ≠ name := h ▸ hfirst
        simp [entryNamed?, h, hne]
      · simp [entryNamed?, h, ih]

theorem mem_of_entryNamed? {name : String} {u : FileTree} {entries : Entries}
    (h : entryNamed? name entries = some u) : (name, u) ∈ entries := by
  induction entries with
  | nil => cases h
  | cons first rest ih =>
    obtain ⟨firstName, v⟩ := first
    rw [entryNamed?] at h
    split at h
    · rename_i hfirst
      obtain rfl := Option.some.inj h
      exact hfirst ▸ List.mem_cons_self
    · exact List.mem_cons_of_mem _ (ih h)

theorem entryNamed?_eq_none_iff {name : String} {entries : Entries} :
    entryNamed? name entries = none ↔ name ∉ entries.map Prod.fst := by
  induction entries with
  | nil => simp [entryNamed?]
  | cons first rest ih =>
    obtain ⟨firstName, v⟩ := first
    by_cases h : firstName = name
    · simp [entryNamed?, h]
    · simp [entryNamed?, h, ih, Ne.symm h]

end Lookup

/-- Changes the entries of the folder at a path; without a folder there nothing changes. -/
def update (f : Entries → Entries) : List String → FileTree → FileTree
  | [], folder entries => folder (f entries)
  | name :: rest, folder entries =>
    match entryNamed? name entries with
    | some u => folder (setEntry name (update f rest u) entries)
    | none => folder entries
  | _, file content => file content

section Update

theorem set_eq_update (new : FileTree) (path : List String) (name : String) (t : FileTree) :
    set new (path ++ [name]) t = update (setEntry name new) path t := by
  induction path generalizing t with
  | nil => cases t <;> rfl
  | cons first rest ih =>
    cases t with
    | file content => cases rest <;> rfl
    | folder entries =>
      obtain ⟨second, others, hrest⟩ : ∃ second others, rest ++ [name] = second :: others := by
        cases rest with
        | nil => exact ⟨name, [], rfl⟩
        | cons second others => exact ⟨second, others ++ [name], rfl⟩
      rw [List.cons_append, hrest, set, update, ← hrest]
      · cases entryNamed? first entries with
        | none => rfl
        | some u => simp only [ih]
      · exact List.cons_ne_nil _ _

theorem erase_eq_update (path : List String) (name : String) (t : FileTree) :
    erase (path ++ [name]) t =
      update (fun entries => entries.filter fun e => e.1 != name) path t := by
  induction path generalizing t with
  | nil => cases t <;> rfl
  | cons first rest ih =>
    cases t with
    | file content => cases rest <;> rfl
    | folder entries =>
      obtain ⟨second, others, hrest⟩ : ∃ second others, rest ++ [name] = second :: others := by
        cases rest with
        | nil => exact ⟨name, [], rfl⟩
        | cons second others => exact ⟨second, others ++ [name], rfl⟩
      rw [List.cons_append, hrest, erase, update, ← hrest]
      · cases entryNamed? first entries with
        | none => rfl
        | some u => simp only [ih]
      · exact List.cons_ne_nil _ _

variable {f : Entries → Entries} {t : FileTree} {path : List String} {entries : Entries}

theorem get?_update_append (h : t.get? path = some (folder entries)) (q : List String) :
    (update f path t).get? (path ++ q) = (folder (f entries)).get? q := by
  induction path generalizing t with
  | nil =>
    obtain rfl : t = folder entries := Option.some.inj h
    rfl
  | cons name rest ih =>
    cases t with
    | file content => cases h
    | folder es =>
      rw [get?] at h
      obtain ⟨u, hu, hrest⟩ := Option.bind_eq_some_iff.1 h
      rw [update, hu]
      simp only [List.cons_append, get?, entryNamed?_setEntry, if_true]
      exact ih hrest

/-- Off the way inwards from the changed folder nothing is different. -/
theorem node?_update_elsewhere {q : List String} (h : ¬ path <+: q) :
    (update f path t).node? q = t.node? q := by
  induction path generalizing t q with
  | nil => exact absurd (List.nil_prefix) h
  | cons name rest ih =>
    cases t with
    | file content => rfl
    | folder es =>
      rw [update]
      cases hu : entryNamed? name es with
      | none => rfl
      | some u =>
        cases q with
        | nil => rfl
        | cons other q =>
          simp only [node?, get?, entryNamed?_setEntry]
          by_cases hother : other = name
          · subst hother
            rw [if_pos rfl, hu]
            exact ih fun hbegins => h (List.cons_prefix_cons.2 ⟨rfl, hbegins⟩)
          · rw [if_neg hother]

/-- A change of one entry is seen at that entry and inside of it. -/
theorem node?_update_entry {name : String} {new : Option FileTree}
    (hf : ∀ es other, entryNamed? other (f es) = if other = name then new else entryNamed? other es)
    (h : t.get? path = some (folder entries)) (q : List String) :
    (update f path t).node? q = if path ++ [name] <+: q then
      new.bind (fun u => u.node? (q.drop (path.length + 1))) else t.node? q := by
  by_cases hpath : path <+: q
  · obtain ⟨r, rfl⟩ := hpath
    simp only [List.prefix_append_right_inj]
    rw [node?, get?_update_append h, node?_append, h]
    cases r with
    | nil => simp [get?, node?, node]
    | cons other r =>
      simp only [get?, hf]
      by_cases hother : other = name
      · subst hother
        have hbegins : [other] <+: other :: r := ⟨r, rfl⟩
        have hdrop : (path ++ other :: r).drop (path.length + 1) = r := by
          rw [← List.drop_drop, List.drop_left]
          rfl
        rw [if_pos rfl, if_pos hbegins, hdrop]
        cases new <;> rfl
      · have hbegins : ¬ [name] <+: other :: r := by
          rintro ⟨s, hs⟩
          exact hother (List.cons.inj hs).1.symm
        rw [if_neg hother, if_neg hbegins]
        rfl
  · have hentry : ¬ path ++ [name] <+: q := fun hbegins =>
      hpath ((List.prefix_append path [name]).trans hbegins)
    rw [node?_update_elsewhere hpath, if_neg hentry]

/-- The change of an entry without folder, to one with nothing inside, is seen only there. -/
theorem node?_update_leaf {name : String} {new : Option FileTree}
    (hf : ∀ es other, entryNamed? other (f es) = if other = name then new else entryNamed? other es)
    (hfolder : t.node? path = some .folder) (hfree : t.node? (path ++ [name]) ≠ some .folder)
    (hleaf : ∀ u ∈ new, ∀ other rest, u.node? (other :: rest) = none) (q : List String) :
    (update f path t).node? q =
      if q = path ++ [name] then new.map FileTree.node else t.node? q := by
  obtain ⟨entries, hentries⟩ := node?_eq_folder_iff.1 hfolder
  rw [node?_update_entry hf hentries]
  by_cases hq : path ++ [name] <+: q
  · obtain ⟨r, rfl⟩ := hq
    have hdrop : (path ++ [name] ++ r).drop (path.length + 1) = r := by simp
    rw [if_pos (List.prefix_append _ _), hdrop]
    cases r with
    | nil =>
      rw [List.append_nil, if_pos rfl]
      cases new <;> rfl
    | cons other r =>
      -- nothing was inside before, and nothing is now
      rw [if_neg (by simp), node?_append_of_not_folder hfree (List.cons_ne_nil other r)]
      cases new with
      | none => rfl
      | some u => exact hleaf u rfl other r
  · rw [if_neg hq, if_neg]
    rintro rfl
    exact hq List.prefix_rfl

end Update

section Change

variable {t : FileTree} {path : List String} {name : String}

theorem node?_set_file (content : ByteArray) (hfolder : t.node? path = some .folder)
    (hfree : t.node? (path ++ [name]) ≠ some .folder) (q : List String) :
    (set (file content) (path ++ [name]) t).node? q =
      if q = path ++ [name] then some (.file content) else t.node? q := by
  rw [set_eq_update]
  refine node?_update_leaf (fun es other => entryNamed?_setEntry name other _ es) hfolder hfree ?_ q
  rintro _ ⟨⟩ other rest
  rfl

theorem node?_set_empty (hfolder : t.node? path = some .folder)
    (hfree : t.node? (path ++ [name]) = none) (q : List String) :
    (set empty (path ++ [name]) t).node? q =
      if q = path ++ [name] then some .folder else t.node? q := by
  have hnot : t.node? (path ++ [name]) ≠ some .folder := by simp [hfree]
  rw [set_eq_update]
  refine node?_update_leaf (fun es other => entryNamed?_setEntry name other _ es) hfolder hnot ?_ q
  rintro _ ⟨⟩ other rest
  rfl

theorem node?_erase (hfile : (t.fileAt? (path ++ [name])).isSome) (q : List String) :
    (erase (path ++ [name]) t).node? q = if q = path ++ [name] then none else t.node? q := by
  obtain ⟨content, hcontent⟩ := Option.isSome_iff_exists.1 hfile
  have hnode := fileAt?_eq_some_iff.1 hcontent
  have hthere : t.node? (path ++ [name]) ≠ none := by simp [hnode]
  have hnot : t.node? (path ++ [name]) ≠ some .folder := by simp [hnode]
  rw [erase_eq_update]
  exact node?_update_leaf (fun es other => entryNamed?_filter_ne name other es)
    (parent_of_node? hthere) hnot nofun q

end Change

/-- In every folder the names ascend, and each stands for something of its own. -/
inductive WellFormed : FileTree → Prop
  | file (content : ByteArray) : WellFormed (file content)
  | folder {entries : Entries} (ascending : (entries.map Prod.fst).Pairwise (· < ·))
      (plain : ∀ e ∈ entries, Path.IsPlain e.1) (inside : ∀ e ∈ entries, WellFormed e.2) :
      WellFormed (folder entries)

namespace WellFormed

variable {t u : FileTree} {path : List String} {name : String} {entries : Entries}

theorem get? (h : t.WellFormed) (hget : t.get? path = some u) : u.WellFormed := by
  induction path generalizing t with
  | nil => exact Option.some.inj hget ▸ h
  | cons name rest ih =>
    cases h with
    | file content => cases hget
    | folder ascending plain inside =>
      obtain ⟨v, hv, hrest⟩ := Option.bind_eq_some_iff.1 hget
      exact ih (inside _ (mem_of_entryNamed? hv)) hrest

theorem empty : WellFormed empty :=
  .folder .nil (fun _ h => nomatch h) fun _ h => nomatch h

theorem mem_setEntry {e : String × FileTree} (h : e ∈ FileTree.setEntry name u entries) :
    e = (name, u) ∨ e ∈ entries := by
  induction entries with
  | nil => exact .inl (List.mem_singleton.1 h)
  | cons first rest ih =>
    obtain ⟨firstName, v⟩ := first
    rw [FileTree.setEntry] at h
    split at h
    · exact (List.mem_cons.1 h).imp_right (List.mem_cons_of_mem _)
    · split at h
      · exact List.mem_cons.1 h
      · rcases List.mem_cons.1 h with rfl | h
        · exact .inr List.mem_cons_self
        · exact (ih h).imp_right (List.mem_cons_of_mem _)

theorem ascending_setEntry (h : (entries.map Prod.fst).Pairwise (· < ·)) :
    ((FileTree.setEntry name u entries).map Prod.fst).Pairwise (· < ·) := by
  induction entries with
  | nil => exact List.pairwise_singleton _ _
  | cons first rest ih =>
    obtain ⟨firstName, v⟩ := first
    obtain ⟨hfirst, hrest⟩ := List.pairwise_cons.1 h
    rw [FileTree.setEntry]
    split
    · rename_i heq
      exact heq ▸ h
    · split
      · rename_i hlt
        refine List.pairwise_cons.2 ⟨fun other hother => ?_, h⟩
        rcases List.mem_cons.1 hother with rfl | hother
        · exact hlt
        · exact String.lt_trans hlt (hfirst other hother)
      · rename_i hne hlt
        refine List.pairwise_cons.2 ⟨fun other hother => ?_, ih hrest⟩
        obtain ⟨e, he, rfl⟩ := List.mem_map.1 hother
        rcases mem_setEntry he with rfl | he
        · rcases Std.lt_trichotomy firstName name with h | h | h
          · exact h
          · exact absurd h hne
          · exact absurd h hlt
        · exact hfirst e.1 (List.mem_map_of_mem he)

theorem setEntry (h : (FileTree.folder entries).WellFormed) (hname : Path.IsPlain name)
    (hu : u.WellFormed) : (FileTree.folder (FileTree.setEntry name u entries)).WellFormed := by
  cases h with
  | folder ascending plain inside =>
    refine .folder (ascending_setEntry ascending) ?_ ?_
    · intro e he
      rcases mem_setEntry he with rfl | he
      · exact hname
      · exact plain e he
    · intro e he
      rcases mem_setEntry he with rfl | he
      · exact hu
      · exact inside e he

theorem filter (h : (FileTree.folder entries).WellFormed) (keep : String × FileTree → Bool) :
    (FileTree.folder (entries.filter keep)).WellFormed := by
  cases h with
  | folder ascending plain inside =>
    refine .folder (ascending.sublist (List.filter_sublist.map _)) ?_ ?_
    · exact fun e he => plain e (List.mem_of_mem_filter he)
    · exact fun e he => inside e (List.mem_of_mem_filter he)

theorem update {f : Entries → Entries} (h : t.WellFormed)
    (hf : ∀ es, (FileTree.folder es).WellFormed → (FileTree.folder (f es)).WellFormed) :
    (FileTree.update f path t).WellFormed := by
  induction path generalizing t with
  | nil =>
    cases t with
    | file content => exact h
    | folder es => exact hf es h
  | cons name rest ih =>
    cases t with
    | file content => exact h
    | folder es =>
      rw [FileTree.update]
      cases hu : entryNamed? name es with
      | none => exact h
      | some u =>
        have hmem := mem_of_entryNamed? hu
        cases h with
        | folder ascending plain inside =>
          exact setEntry (.folder ascending plain inside) (plain _ hmem) (ih (inside _ hmem))

theorem set (h : t.WellFormed) (hname : Path.IsPlain name) (hu : u.WellFormed) :
    (FileTree.set u (path ++ [name]) t).WellFormed := by
  rw [set_eq_update]
  exact h.update fun es hes => hes.setEntry hname hu

theorem erase (h : t.WellFormed) : (FileTree.erase (path ++ [name]) t).WellFormed := by
  rw [erase_eq_update]
  exact h.update fun es hes => hes.filter _

theorem plain_of_mem (h : (FileTree.folder entries).WellFormed)
    (hname : name ∈ entries.map Prod.fst) : Path.IsPlain name := by
  cases h with
  | folder ascending plain inside =>
    obtain ⟨e, he, rfl⟩ := List.mem_map.1 hname
    exact plain e he

end WellFormed

end ViewCompanion.FileTree
