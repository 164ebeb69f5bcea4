import ViewCompanion.Proofs.Storage.Location

namespace ViewCompanion.FileTree

open Storage

variable {t u : FileTree} {path : String} {content : ByteArray} {p : List String}

theorem find_eq_ok_iff :
    t.find path = .ok u ↔ ∃ p, t.locate path = .ok p ∧ t.get? p = some u := by
  unfold find
  cases t.locate path with
  | error trouble => simp [bind, Except.bind]
  | ok p => cases hget : t.get? p <;> simp [bind, Except.bind, hget]

theorem read_eq_ok_iff : t.read path = .ok content ↔ t.find path = .ok (file content) := by
  unfold read
  cases t.find path with
  | error trouble => simp [bind, Except.bind]
  | ok v => cases v <;> simp [bind, Except.bind]

theorem find_ne_isFolder : t.find path ≠ .error .isFolder := by
  unfold find
  cases hlocate : t.locate path with
  | error trouble =>
    rintro ⟨⟩
    unfold locate at hlocate
    split at hlocate
    · cases hlocate
    · exact follow_ne_isFolder hlocate
  | ok p => cases hget : t.get? p <;> simp [bind, Except.bind, hget]

def hasFolder (t : FileTree) (path : String) : Bool :=
  match t.read path with
  | .error .isFolder => true
  | _ => false

theorem hasFolder_iff_find :
    t.hasFolder path = true ↔ ∃ entries, t.find path = .ok (folder entries) := by
  unfold hasFolder read
  cases hfind : t.find path with
  | error trouble =>
    have hne : trouble ≠ .isFolder := fun h => find_ne_isFolder (h ▸ hfind)
    cases trouble <;> simp_all [bind, Except.bind]
  | ok v => cases v <;> simp [bind, Except.bind]

theorem hasFolder_iff :
    t.hasFolder path = true ↔ ∃ p, t.locate path = .ok p ∧ t.node? p = some .folder := by
  rw [hasFolder_iff_find]
  simp only [find_eq_ok_iff, node?_eq_folder_iff]
  constructor
  · rintro ⟨entries, p, hp, hget⟩
    exact ⟨p, hp, entries, hget⟩
  · rintro ⟨p, hp, entries, hget⟩
    exact ⟨entries, p, hp, hget⟩

section Join

variable {folder inner : String} {dir : List String}
  (hdir : t.locate folder = .ok dir) (hinner : Path.IsInner inner)

include hdir hinner

theorem read_join_eq_ok_iff :
    t.read (Path.join folder inner) = .ok content ↔
      t.fileAt? (dir ++ Path.names inner) = some content := by
  rw [read_eq_ok_iff, find_join_eq_ok_iff hdir hinner, fileAt?_eq_some_iff, node?]
  cases t.get? (dir ++ Path.names inner) with
  | none => simp
  | some v => cases v <;> simp [node]

theorem hasFolder_join_iff :
    t.hasFolder (Path.join folder inner) = true ↔
      t.node? (dir ++ Path.names inner) = some .folder := by
  rw [hasFolder_iff_find, node?_eq_folder_iff]
  exact exists_congr fun entries => find_join_eq_ok_iff hdir hinner

end Join

/-- Where there is no folder, a path that leads anywhere leads to an entry of a folder. -/
theorem exists_entry_of_locate (h : t.locate path = .ok p) (hp : t.node? p ≠ some .folder) :
    ∃ outer name, p = outer ++ [name] ∧ t.node? outer = some .folder ∧ Path.IsPlain name := by
  have hroot : t.node? [] = some .folder := by
    obtain ⟨-, -, hfollow⟩ := locate_eq_ok_iff.1 h
    obtain ⟨first, rest, hnames⟩ := List.exists_cons_of_ne_nil (Path.names_ne_nil path)
    rw [hnames] at hfollow
    exact folder_of_follow_cons hfollow
  have hne : p ≠ [] := by
    rintro rfl
    exact hp hroot
  obtain ⟨outer, name, rfl⟩ : ∃ outer name, p = outer ++ [name] :=
    ⟨p.dropLast, p.getLast hne, (List.dropLast_append_getLast hne).symm⟩
  exact ⟨outer, name, rfl, inFolder_of_locate h outer name rfl,
    plain_of_locate h name (List.mem_append_right _ (List.mem_singleton_self name))⟩

theorem write_eq_ok_iff : t.write path content = .ok u ↔
    ∃ p, t.locate path = .ok p ∧ t.node? p ≠ some .folder ∧ u = set (file content) p t := by
  unfold write node?
  cases t.locate path with
  | error trouble => simp [bind, Except.bind]
  | ok p =>
    cases hget : t.get? p with
    | none => simp [bind, Except.bind, hget, eq_comm]
    | some v => cases v <;> simp [bind, Except.bind, hget, eq_comm, node]

theorem node?_of_write (h : t.write path content = .ok u) : ∃ p, t.locate path = .ok p ∧
    ∀ q, u.node? q = if q = p then some (.file content) else t.node? q := by
  obtain ⟨p, hp, hfree, rfl⟩ := write_eq_ok_iff.1 h
  obtain ⟨outer, name, rfl, hfolder, -⟩ := exists_entry_of_locate hp hfree
  exact ⟨outer ++ [name], hp, node?_set_file content hfolder hfree⟩

theorem createFolder_eq_ok_iff : t.createFolder path = .ok u ↔
    ∃ p, t.locate (Path.trimEnd path) = .ok p ∧ t.node? p = none ∧ u = set empty p t := by
  unfold createFolder node?
  cases t.locate (Path.trimEnd path) with
  | error trouble => simp [bind, Except.bind]
  | ok p => cases hget : t.get? p <;> simp [bind, Except.bind, hget, eq_comm]

theorem node?_of_createFolder (h : t.createFolder path = .ok u) :
    ∃ p, t.locate (Path.trimEnd path) = .ok p ∧ t.node? p = none ∧
      ∀ q, u.node? q = if q = p then some .folder else t.node? q := by
  obtain ⟨p, hp, hfree, rfl⟩ := createFolder_eq_ok_iff.1 h
  obtain ⟨outer, name, rfl, hfolder, -⟩ := exists_entry_of_locate hp (by simp [hfree])
  exact ⟨outer ++ [name], hp, hfree, node?_set_empty hfolder hfree⟩

theorem ne_folder_of_fileAt? (h : (t.fileAt? p).isSome) : t.node? p ≠ some .folder := by
  obtain ⟨content, hcontent⟩ := Option.isSome_iff_exists.1 h
  rw [fileAt?_eq_some_iff.1 hcontent]
  exact nofun

theorem ne_none_of_fileAt? (h : (t.fileAt? p).isSome) : t.node? p ≠ none := by
  obtain ⟨content, hcontent⟩ := Option.isSome_iff_exists.1 h
  rw [fileAt?_eq_some_iff.1 hcontent]
  exact nofun

theorem remove_eq_ok_iff : t.remove path = .ok u ↔
    ∃ p, t.locate path = .ok p ∧ (t.fileAt? p).isSome ∧ u = erase p t := by
  unfold remove fileAt? node?
  cases t.locate path with
  | error trouble => simp [bind, Except.bind]
  | ok p =>
    cases hget : t.get? p with
    | none => simp [bind, Except.bind, hget]
    | some v =>
      have hcomm : erase p t = u ↔ u = erase p t := eq_comm
      cases v <;> simp [bind, Except.bind, hget, node, hcomm]

theorem node?_of_remove (h : t.remove path = .ok u) :
    ∃ p, t.locate path = .ok p ∧ (t.fileAt? p).isSome ∧
      ∀ q, u.node? q = if q = p then none else t.node? q := by
  obtain ⟨p, hp, hfile, rfl⟩ := remove_eq_ok_iff.1 h
  obtain ⟨outer, name, rfl, -, -⟩ := exists_entry_of_locate hp (ne_folder_of_fileAt? hfile)
  exact ⟨outer ++ [name], hp, hfile, node?_erase hfile⟩

namespace WellFormed

theorem write (ht : t.WellFormed) (h : t.write path content = .ok u) : u.WellFormed := by
  obtain ⟨p, hp, hfree, rfl⟩ := write_eq_ok_iff.1 h
  obtain ⟨outer, name, rfl, -, hname⟩ := exists_entry_of_locate hp hfree
  exact ht.set hname (.file content)

theorem createFolder (ht : t.WellFormed) (h : t.createFolder path = .ok u) : u.WellFormed := by
  obtain ⟨p, hp, hfree, rfl⟩ := createFolder_eq_ok_iff.1 h
  obtain ⟨outer, name, rfl, -, hname⟩ := exists_entry_of_locate hp (by rw [hfree]; exact nofun)
  exact ht.set hname .empty

theorem remove (ht : t.WellFormed) (h : t.remove path = .ok u) : u.WellFormed := by
  obtain ⟨p, hp, hfile, rfl⟩ := remove_eq_ok_iff.1 h
  obtain ⟨outer, name, rfl, -, -⟩ := exists_entry_of_locate hp (ne_folder_of_fileAt? hfile)
  exact ht.erase

end WellFormed

theorem mem_names_iff {entries : Entries} {dir : List String} {name : String}
    (h : t.get? dir = some (folder entries)) :
    name ∈ entries.map Prod.fst ↔ t.node? (dir ++ [name]) ≠ none := by
  rw [node?_append, h, Option.bind_some, node?, get?]
  rw [← not_iff_not, ← entryNamed?_eq_none_iff, not_not]
  cases entryNamed? name entries <;> simp [get?]

section Depth

theorem depth_le_depths {entries : Entries} {e : String × FileTree} (h : e ∈ entries) :
    e.2.depth ≤ depths entries := by
  induction entries with
  | nil => cases h
  | cons first rest ih =>
    obtain ⟨name, v⟩ := first
    rw [depths]
    rcases List.mem_cons.1 h with rfl | h
    · exact Nat.le_max_left _ _
    · exact Nat.le_trans (ih h) (Nat.le_max_right _ _)

/-- Nothing lies deeper than the depth of the tree. -/
theorem length_le_depth (h : t.node? p ≠ none) : p.length ≤ t.depth := by
  induction p generalizing t with
  | nil => exact Nat.zero_le _
  | cons name rest ih =>
    cases t with
    | file content => exact absurd rfl h
    | folder entries =>
      simp only [node?, get?] at h
      cases hu : entryNamed? name entries with
      | none =>
        rw [hu] at h
        exact absurd rfl h
      | some u =>
        rw [hu] at h
        have hrest : rest.length ≤ u.depth := ih h
        have hdepth : u.depth ≤ depths entries := depth_le_depths (mem_of_entryNamed? hu)
        rw [List.length_cons, depth]
        omega

end Depth

end ViewCompanion.FileTree
