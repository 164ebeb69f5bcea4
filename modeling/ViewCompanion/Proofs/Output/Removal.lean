import ViewCompanion.Proofs.Storage.Run

namespace ViewCompanion.FileTree

open Storage

/-- The named files below `dir` are gone; nothing else is different. -/
structure Drops (dir : List String) (gone : List String) (t u : FileTree) : Prop where
  node? : ∀ q, u.node? q =
    if q ∈ gone.map (fun name => dir ++ Path.names name) then none else t.node? q
  file : ∀ name ∈ gone, (t.fileAt? (dir ++ Path.names name)).isSome
  nodup : gone.Nodup
  wellFormed : t.WellFormed → u.WellFormed

namespace Drops

variable {t u v : FileTree} {dir gone gone' : List String}

theorem nil (dir : List String) (t : FileTree) : Drops dir [] t t :=
  ⟨fun _ => rfl, nofun, .nil, id⟩

theorem fileAt? (h : Drops dir gone t u) (q : List String) : u.fileAt? q =
    if q ∈ gone.map (fun name => dir ++ Path.names name) then none else t.fileAt? q := by
  unfold FileTree.fileAt?
  rw [h.node?]
  by_cases hq : q ∈ gone.map (fun name => dir ++ Path.names name)
  · rw [if_pos hq, if_pos hq]
  · rw [if_neg hq, if_neg hq]

theorem folder_iff (h : Drops dir gone t u) (q : List String) :
    u.node? q = some .folder ↔ t.node? q = some .folder := by
  rw [h.node?]
  split
  · rename_i hq
    obtain ⟨name, hname, rfl⟩ := List.mem_map.1 hq
    exact iff_of_false nofun (ne_folder_of_fileAt? (h.file name hname))
  · rfl

theorem locate {folder : String} (h : Drops dir gone t u) (hdir : t.locate folder = .ok dir) :
    u.locate folder = .ok dir :=
  locate_mono (fun q => (h.folder_iff q).2) hdir

/-- Nothing is dropped twice. -/
theorem append (htu : Drops dir gone t u) (huv : Drops dir gone' u v) :
    Drops dir (gone ++ gone') t v := by
  have hleft : ∀ name ∈ gone', dir ++ Path.names name ∉ gone.map fun n => dir ++ Path.names n := by
    intro name hname hmem
    have hfile := huv.file name hname
    rw [htu.fileAt?, if_pos hmem] at hfile
    cases hfile
  refine ⟨fun q => ?_, fun name hname => ?_, ?_, fun ht => huv.wellFormed (htu.wellFormed ht)⟩
  · rw [huv.node?, htu.node?, List.map_append]
    by_cases hq : q ∈ gone.map (fun name => dir ++ Path.names name)
    · rw [if_pos hq, if_pos (List.mem_append_left _ hq), ite_self]
    · by_cases hq' : q ∈ gone'.map (fun name => dir ++ Path.names name)
      · rw [if_pos hq', if_pos (List.mem_append_right _ hq')]
      · rw [if_neg hq', if_neg hq, if_neg fun h => (List.mem_append.1 h).elim hq hq']
  · rcases List.mem_append.1 hname with hname | hname
    · exact htu.file name hname
    · have hfile := huv.file name hname
      rwa [htu.fileAt?, if_neg (hleft name hname)] at hfile
  · refine List.nodup_append.2 ⟨htu.nodup, huv.nodup, ?_⟩
    rintro name hname _ hname' rfl
    exact hleft name hname' (List.mem_map_of_mem hname)

end Drops

variable {t u : FileTree} {folder : String} {dir : List String}

theorem drops_of_ends_remove {name about : String} {a : Unit} (hdir : t.locate folder = .ok dir)
    (hname : Path.IsInner name)
    (h : Ends (onPath about (storage.remove (Path.join folder name))) t a u) :
    Drops dir [name] t u := by
  have hremove : t.remove (Path.join folder name) = .ok u :=
    changing_eq_ok_iff.1 (ends_onPath.1 h)
  obtain ⟨p, hp, hfile, hnode⟩ := node?_of_remove hremove
  obtain rfl := eq_of_locate_join hdir hname hp
  refine ⟨fun q => ?_, fun other hother => ?_, List.pairwise_singleton _ _, fun ht =>
    ht.remove hremove⟩
  · rw [hnode, List.map_singleton]
    simp only [List.mem_singleton]
  · exact List.mem_singleton.1 hother ▸ hfile

theorem drops_of_ends_forM {names : List String} {a : PUnit} (hdir : t.locate folder = .ok dir)
    (hnames : ∀ name ∈ names, Path.IsInner name)
    (h : Ends (names.forM fun name =>
      onPath (Path.join folder name) (storage.remove (Path.join folder name))) t a u) :
    Drops dir names t u := by
  induction names generalizing t with
  | nil =>
    obtain ⟨-, rfl⟩ := ends_pure.1 h
    exact .nil dir _
  | cons name rest ih =>
    obtain ⟨done, between, hremove, h⟩ := ends_bind.1 h
    have hfirst := drops_of_ends_remove hdir (hnames name List.mem_cons_self) hremove
    exact hfirst.append
      (ih (hfirst.locate hdir) (fun n hn => hnames n (List.mem_cons_of_mem _ hn)) h)

theorem ends_entries {path about : String} {names : List String} :
    Ends (onPath about (storage.entries path)) t names u ↔
      t = u ∧ ∃ entries, t.find path = .ok (.folder entries) ∧ names = entries.map Prod.fst := by
  have hrun : (storage.entries path).run t = (t.entries path, t) := rfl
  rw [ends_onPath, hrun]
  unfold entries
  constructor
  · intro h
    cases hfind : t.find path with
    | error trouble =>
      rw [hfind] at h
      cases h
    | ok v =>
      rw [hfind] at h
      cases v with
      | file content => cases h
      | folder es =>
        cases h
        exact ⟨rfl, es, rfl, rfl⟩
  · rintro ⟨rfl, es, hfind, rfl⟩
    rw [hfind]
    rfl

/-- All files below `dir` that `old` tells are gone; nothing else is different. -/
structure Sweeps (dir : List String) (old : List String → Prop) (gone : List String)
    (t u : FileTree) : Prop extends Drops dir gone t u where
  mem_iff : ∀ rest, rest ∈ gone.map Path.names ↔ old rest ∧ (t.fileAt? (dir ++ rest)).isSome

namespace Sweeps

variable {v : FileTree} {old old' : List String → Prop} {gone gone' : List String}

theorem nil (h : ∀ rest, old rest → ¬ (t.fileAt? (dir ++ rest)).isSome) : Sweeps dir old [] t t :=
  ⟨.nil dir t, fun rest => iff_of_false nofun fun ⟨hold, hfile⟩ => h rest hold hfile⟩

theorem gone_iff (h : Sweeps dir old gone t u) (rest : List String) :
    dir ++ rest ∈ gone.map (fun name => dir ++ Path.names name) ↔
      old rest ∧ (t.fileAt? (dir ++ rest)).isSome := by
  rw [← h.mem_iff]
  simp only [List.mem_map, List.append_cancel_left_eq]

theorem append (htu : Sweeps dir old gone t u) (huv : Sweeps dir old' gone' u v) :
    Sweeps dir (fun rest => old rest ∨ old' rest) (gone ++ gone') t v := by
  refine ⟨htu.toDrops.append huv.toDrops, fun rest => ?_⟩
  rw [List.map_append, List.mem_append, huv.mem_iff, htu.mem_iff, htu.fileAt?]
  split
  · rename_i h
    have hboth := (htu.gone_iff rest).1 h
    exact iff_of_true (.inl hboth) ⟨.inl hboth.1, hboth.2⟩
  · rename_i h
    have hnot := mt (htu.gone_iff rest).2 h
    tauto

theorem congr (h : Sweeps dir old gone t u)
    (hiff : ∀ rest, (t.fileAt? (dir ++ rest)).isSome → (old rest ↔ old' rest)) :
    Sweeps dir old' gone t u :=
  ⟨h.toDrops, fun rest => (h.mem_iff rest).trans (and_congr_left fun hfile => hiff rest hfile)⟩

end Sweeps

theorem sweeps_of_ends_removeCompanions {extension : String} {current gone : List String}
    (hdir : t.locate folder = .ok dir) (ht : t.WellFormed)
    (h : Ends (storage.removeCompanions folder extension current) t gone u) :
    Sweeps dir (fun rest => ∃ name, rest = [name] ∧
      name.endsWith (Artifact.ending extension) = true ∧ name ∉ current) gone t u := by
  obtain ⟨names, between, hentries, h⟩ := ends_bind.1 h
  obtain ⟨rfl, entries, hfind, rfl⟩ := ends_entries.1 hentries
  obtain ⟨done, between', hremove, h⟩ := ends_bind.1 h
  obtain ⟨rfl, rfl⟩ := ends_pure.1 h
  obtain ⟨dir', hdir', hget⟩ := find_eq_ok_iff.1 hfind
  obtain rfl := Except.ok.inj (hdir.symm.trans hdir')
  have hplain : ∀ name ∈ entries.map Prod.fst, Path.IsPlain name := fun name hname =>
    (ht.get? hget).plain_of_mem hname
  have hdrops := drops_of_ends_forM hdir
    (fun name hname => (hplain name (List.mem_of_mem_filter hname)).isInner) hremove
  refine ⟨hdrops, fun rest => ⟨fun hrest => ?_, ?_⟩⟩
  · obtain ⟨name, hname, rfl⟩ := List.mem_map.1 hrest
    have hnames := (hplain name (List.mem_of_mem_filter hname)).names_eq
    have hkeep := (List.mem_filter.1 hname).2
    simp only [Bool.and_eq_true, Bool.not_eq_true', List.contains_eq_mem,
      decide_eq_false_iff_not] at hkeep
    exact ⟨⟨name, hnames, hkeep⟩, hdrops.file name hname⟩
  · rintro ⟨⟨name, rfl, hends, hcurrent⟩, hfile⟩
    have hname := (mem_names_iff hget).2 (ne_none_of_fileAt? hfile)
    refine List.mem_map.2 ⟨name, List.mem_filter.2 ⟨hname, ?_⟩, (hplain name hname).names_eq⟩
    simp [hends, hcurrent]

theorem sweeps_of_ends_mapM {action : String → Action (List String)} {names : List String}
    {old : String → List String → Prop} {gones : List (List String)}
    (hstep : ∀ name ∈ names, ∀ v gone w, v.locate folder = .ok dir → v.WellFormed →
      (∀ q, v.node? q ≠ none → t.node? q ≠ none) → Ends (action name) v gone w →
        Sweeps dir (old name) gone v w)
    (hdir : t.locate folder = .ok dir) (ht : t.WellFormed)
    (h : Ends (names.mapM action) t gones u) :
    Sweeps dir (fun rest => ∃ name ∈ names, old name rest) gones.flatten t u := by
  induction names generalizing t gones with
  | nil =>
    rw [List.mapM_nil] at h
    obtain ⟨rfl, rfl⟩ := ends_pure.1 h
    exact .nil fun rest hrest => nomatch hrest
  | cons name rest ih =>
    rw [List.mapM_cons] at h
    obtain ⟨gone, between, hfirst, h⟩ := ends_bind.1 h
    obtain ⟨others, between', hrest, h⟩ := ends_bind.1 h
    obtain ⟨rfl, rfl⟩ := ends_pure.1 h
    have hsweep := hstep name List.mem_cons_self _ _ _ hdir ht (fun _ hq => hq) hfirst
    -- the first sweep adds nothing, so what is known of the old tree still holds
    have hsub : ∀ q, between.node? q ≠ none → t.node? q ≠ none := by
      intro q hq
      rw [hsweep.node?] at hq
      split at hq
      · exact absurd rfl hq
      · exact hq
    have hothers := ih (fun n hn v gone w hv hwf hvq =>
        hstep n (List.mem_cons_of_mem _ hn) v gone w hv hwf fun q hq => hsub q (hvq q hq))
      (hsweep.locate hdir) (hsweep.wellFormed ht) hrest
    exact (hsweep.append hothers).congr fun path _ => by simp

/-- What stands at or below a folder, other than the folder itself, is at or below one of its
entries. -/
theorem begins_iff_of_file {inner rest : List String} {entries : List (String × FileTree)}
    (hget : t.get? (dir ++ inner) = some (.folder entries))
    (hfile : (t.fileAt? (dir ++ rest)).isSome) :
    inner <+: rest ↔ ∃ name ∈ entries.map Prod.fst, inner ++ [name] <+: rest := by
  constructor
  · rintro ⟨inside, rfl⟩
    rw [← List.append_assoc] at hfile
    cases inside with
    | nil =>
      rw [List.append_nil] at hfile
      exact absurd (node?_eq_folder_iff.2 ⟨entries, hget⟩) (ne_folder_of_fileAt? hfile)
    | cons name rest =>
      have hthere : t.node? (dir ++ inner ++ [name] ++ rest) ≠ none := by
        simpa using ne_none_of_fileAt? hfile
      have hmem := (mem_names_iff hget).2 (node?_ne_none_of_append hthere)
      exact ⟨name, hmem, rest, by simp⟩
  · rintro ⟨name, -, hbegins⟩
    exact (List.prefix_append _ _).trans hbegins

theorem eq_of_begins_of_file {inner rest : List String}
    (hnode : t.node? (dir ++ inner) ≠ some .folder) (hbegins : inner <+: rest)
    (hfile : (t.fileAt? (dir ++ rest)).isSome) : rest = inner := by
  obtain ⟨inside, rfl⟩ := hbegins
  by_contra hne
  have hinside : inside ≠ [] := by
    rintro rfl
    exact hne (List.append_nil _)
  rw [← List.append_assoc] at hfile
  exact ne_none_of_fileAt? hfile (node?_append_of_not_folder hnode hinside)

theorem sweeps_of_ends_removeOne {inner about : String} {current gone : List String}
    (hdir : t.locate folder = .ok dir) (hinner : Path.IsInner inner)
    (hnode : t.node? (dir ++ Path.names inner) ≠ some .folder)
    (h : Ends (if current.contains inner then pure [] else do
      onPath about (storage.remove (Path.join folder inner))
      pure [inner]) t gone u) :
    Sweeps dir (fun rest => Path.names inner <+: rest ∧ rest ∉ current.map Path.names)
      gone t u := by
  have hcurrent : current.contains inner = true ↔ Path.names inner ∈ current.map Path.names := by
    rw [List.contains_iff_mem, List.mem_map_of_injective Path.names_injective]
  split at h
  · rename_i hkept
    obtain ⟨rfl, rfl⟩ := ends_pure.1 h
    refine .nil fun rest ⟨hbegins, hrest⟩ hfile => hrest ?_
    rw [eq_of_begins_of_file hnode hbegins hfile]
    exact hcurrent.1 hkept
  · rename_i hold
    obtain ⟨done, between, hremove, h⟩ := ends_bind.1 h
    obtain ⟨rfl, rfl⟩ := ends_pure.1 h
    have hdrops := drops_of_ends_remove hdir hinner hremove
    refine ⟨hdrops, fun rest => ?_⟩
    rw [List.map_singleton, List.mem_singleton]
    constructor
    · rintro rfl
      exact ⟨⟨List.prefix_rfl, mt hcurrent.2 hold⟩, hdrops.file inner List.mem_cons_self⟩
    · rintro ⟨⟨hbegins, -⟩, hfile⟩
      exact eq_of_begins_of_file hnode hbegins hfile

/-- The sweep below `inner`, deep enough to see everything there. -/
theorem sweeps_of_ends_removeBelow {n : Nat} {inner : String} {current gone : List String}
    (hdir : t.locate folder = .ok dir) (ht : t.WellFormed) (hinner : Path.IsInner inner)
    (hdepth : ∀ rest, t.node? (dir ++ Path.names inner ++ rest) ≠ none → rest.length < n)
    (h : Ends (storage.removeBelow folder current n inner) t gone u) :
    Sweeps dir (fun rest => Path.names inner <+: rest ∧ rest ∉ current.map Path.names)
      gone t u := by
  induction n generalizing t u inner gone with
  | zero =>
    obtain ⟨rfl, rfl⟩ := ends_pure.1 h
    refine .nil ?_
    rintro _ ⟨⟨rest, rfl⟩, -⟩ hfile
    rw [← List.append_assoc] at hfile
    exact absurd (hdepth rest (ne_none_of_fileAt? hfile)) (Nat.not_lt_zero _)
  | succ n ih =>
    rw [removeBelow] at h
    obtain ⟨isFolder, between, hfolder, h⟩ := ends_bind.1 h
    rw [ends_lift, run_hasFolder] at hfolder
    cases hfolder
    split at h
    · obtain ⟨names, between, hentries, h⟩ := ends_bind.1 h
      obtain ⟨rfl, entries, hfind, rfl⟩ := ends_entries.1 hentries
      obtain ⟨gones, between', hbelow, h⟩ := ends_bind.1 h
      obtain ⟨rfl, rfl⟩ := ends_pure.1 h
      have hget := (find_join_eq_ok_iff hdir hinner).1 hfind
      have hname : ∀ name ∈ entries.map Prod.fst, Path.IsInner (Path.join inner name) ∧
          Path.names (Path.join inner name) = Path.names inner ++ [name] := by
        intro name hname
        have hplain := (ht.get? hget).plain_of_mem hname
        refine ⟨hinner.join hplain.isInner, ?_⟩
        rw [hinner.names_join hplain.isInner, hplain.names_eq]
      -- an entry is one level nearer to the innermost file
      have hsweep := sweeps_of_ends_mapM (fun name hmem v gone w hv hwf hsub hends =>
        ih hv hwf (hname name hmem).1 (fun rest hrest => ?_) hends) hdir ht hbelow
      · refine hsweep.congr fun rest hfile => ?_
        rw [begins_iff_of_file hget hfile]
        constructor
        · rintro ⟨name, hmem, hbegins, hcurrent⟩
          exact ⟨⟨name, hmem, (hname name hmem).2 ▸ hbegins⟩, hcurrent⟩
        · rintro ⟨⟨name, hmem, hbegins⟩, hcurrent⟩
          exact ⟨name, hmem, (hname name hmem).2.symm ▸ hbegins, hcurrent⟩
      · rw [(hname name hmem).2, ← List.append_assoc, List.append_assoc] at hrest
        exact Nat.lt_of_succ_lt_succ (hdepth (name :: rest) (hsub _ hrest))
    · rename_i hthere
      exact sweeps_of_ends_removeOne hdir hinner (mt (hasFolder_join_iff hdir hinner).2 hthere) h

theorem isPlain_directory : Path.IsPlain Manifest.directory := by
  constructor <;> decide

theorem sweeps_of_ends_removeManifests {current gone : List String}
    (hdir : t.locate folder = .ok dir) (ht : t.WellFormed)
    (h : Ends (storage.removeManifests folder current) t gone u) :
    Sweeps dir (fun rest => (∃ inner, inner ≠ [] ∧ rest = Manifest.directory :: inner) ∧
      rest ∉ current.map Path.names) gone t u := by
  have hnames := isPlain_directory.names_eq
  obtain ⟨isFolder, between, hfolder, h⟩ := ends_bind.1 h
  rw [ends_lift, run_hasFolder] at hfolder
  cases hfolder
  have hthere := hasFolder_join_iff hdir isPlain_directory.isInner
  rw [hnames] at hthere
  split at h
  · rename_i hfolder
    have hnode := hthere.1 hfolder
    obtain ⟨depth, between, hdepth, h⟩ := ends_bind.1 h
    rw [ends_lift] at hdepth
    cases hdepth
    have hsweep := sweeps_of_ends_removeBelow hdir ht isPlain_directory.isInner
      (fun rest hrest => ?_) h
    · rw [hnames] at hsweep
      refine hsweep.congr fun rest hfile => and_congr_left fun _ => ⟨?_, ?_⟩
      · rintro ⟨inner, rfl⟩
        refine ⟨inner, ?_, rfl⟩
        rintro rfl
        exact ne_folder_of_fileAt? hfile hnode
      · rintro ⟨inner, -, rfl⟩
        exact ⟨inner, rfl⟩
    · -- nothing lies deeper than the sweep goes
      have hlength := length_le_depth hrest
      simp only [List.length_append] at hlength
      omega
  · rename_i hfolder
    obtain ⟨rfl, rfl⟩ := ends_pure.1 h
    have hnode := mt hthere.2 hfolder
    refine .nil ?_
    rintro _ ⟨⟨inner, hinner, rfl⟩, -⟩ hfile
    have hnone := node?_append_of_not_folder hnode hinner
    rw [List.append_assoc] at hnone
    exact ne_none_of_fileAt? hfile hnone

end ViewCompanion.FileTree
