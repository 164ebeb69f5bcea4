import Mathlib.Data.List.Nodup
import ViewCompanion.Proofs.Output.Removal
import ViewCompanion.Proofs.Output.Writing

namespace ViewCompanion

open Storage

def Manifest.IsFileName (name : String) : Prop :=
  name = rootFile ∨ ∃ segments, segments ≠ [] ∧ (∀ s ∈ segments, Path.IsPlain s) ∧
    name = directory ++ "/" ++ Text.join "/" segments ++ ".rs"

/-- A report whose files have names of their own, each of the form that its kind of file has. -/
structure Report.IsWritable (r : Report) (extension : String) : Prop where
  nodup : (r.files.map Prod.fst).Nodup
  artifact : ∀ a ∈ r.artifacts,
    '/' ∉ a.fileName.toList ∧ a.fileName.endsWith (Artifact.ending extension) = true
  manifest : ∀ m ∈ r.manifests, Manifest.IsFileName m.fileName

/-- The paths in an output folder that belong to the runs with one extension. -/
def Output.IsManaged (extension : String) (path : List String) : Prop :=
  (∃ name, path = [name] ∧ name.endsWith (Artifact.ending extension) = true) ∨
    ∃ inner, inner ≠ [] ∧ path = Manifest.directory :: inner

def Report.contentAt? (r : Report) (path : List String) : Option ByteArray :=
  (r.files.find? fun f => Path.names f.1 == path).map fun f => f.2.toUTF8

/-- What writing a report into `folder` makes of `t`, and what is said about it. -/
structure Report.IsWritten (r : Report) (folder extension : String) (t u : FileTree)
    (o : WriteOutcome) : Prop where
  content : ∀ f ∈ r.files, u.read (Path.join folder f.1) = .ok f.2.toUTF8
  companion : ∀ name, name.endsWith (Artifact.ending extension) = true →
    ((u.fileAt? (Path.resolved folder ++ [name])).isSome ↔ ∃ a ∈ r.artifacts, a.fileName = name)
  manifest : ∀ inner, inner ≠ [] →
    ((u.fileAt? (Path.resolved folder ++ Manifest.directory :: inner)).isSome ↔
      ∃ m ∈ r.manifests, Path.names m.fileName = Manifest.directory :: inner)
  others : ∀ path, (∀ f ∈ r.files, path ≠ Path.resolved folder ++ Path.names f.1) →
    (∀ inner, Output.IsManaged extension inner → path ≠ Path.resolved folder ++ inner) →
      u.fileAt? path = t.fileAt? path
  each_once : (o.written ++ o.unchanged).Perm (r.files.map Prod.fst)
  unchanged : ∀ f ∈ r.files, f.1 ∈ o.unchanged ↔
    t.fileAt? (Path.resolved folder ++ Path.names f.1) = some f.2.toUTF8
  ascending : o.removed.Pairwise (· < ·)
  removed : ∀ path, (t.fileAt? path).isSome ∧ u.fileAt? path = none ↔
    ∃ name ∈ o.removed, path = Path.resolved folder ++ Path.names name

section FileNames

variable {name extension : String}

/-- The ending of companions is too long and has too many points for any other name. -/
theorem bounds_of_endsWith (h : name.endsWith (Artifact.ending extension) = true) :
    11 ≤ name.toList.length ∧ 2 ≤ name.toList.count '.' := by
  rw [← String.endsWith_toSlice, String.Slice.endsWith_string_iff] at h
  obtain ⟨front, hfront⟩ := h
  have hlist : front ++ (".generated.".toList ++ extension.toList) = name.toList := by
    simpa [Artifact.ending] using hfront
  have hmark : ".generated.".toList = ['.', 'g', 'e', 'n', 'e', 'r', 'a', 't', 'e', 'd', '.'] := rfl
  rw [← hlist, hmark]
  constructor
  · simp only [List.length_append, List.length_cons]
    omega
  · simp only [List.count_append]
    have hcount : ['.', 'g', 'e', 'n', 'e', 'r', 'a', 't', 'e', 'd', '.'].count '.' = 2 := rfl
    omega

theorem isPlain_of_endsWith (hslash : '/' ∉ name.toList)
    (h : name.endsWith (Artifact.ending extension) = true) : Path.IsPlain name := by
  obtain ⟨hlength, -⟩ := bounds_of_endsWith h
  exact Path.isPlain_of_length (by omega) hslash

theorem not_endsWith_rootFile :
    ¬ Manifest.rootFile.endsWith (Artifact.ending extension) = true := by
  intro h
  obtain ⟨-, hcount⟩ := bounds_of_endsWith h
  exact absurd hcount (by decide)

theorem isInner_join_rs {segments : List String} (hne : segments ≠ [])
    (h : ∀ s ∈ segments, Path.IsPlain s) : Path.IsInner (Text.join "/" segments ++ ".rs") := by
  induction segments with
  | nil => exact absurd rfl hne
  | cons s rest ih =>
    cases rest with
    | nil =>
      have hjoin : Text.join "/" [s] = s := by simp [Text.join, Text.joinWith]
      rw [hjoin]
      exact (h s List.mem_cons_self).append_rs.isInner
    | cons t rest =>
      have hjoin : Text.join "/" (s :: t :: rest) = s ++ "/" ++ Text.join "/" (t :: rest) := by
        apply String.toList_injective
        simp [Text.join, Text.joinWith]
      have hrest := ih (List.cons_ne_nil _ _) fun n hn => h n (List.mem_cons_of_mem _ hn)
      intro n hn
      rw [hjoin, String.append_assoc, Path.names_append_slash, List.mem_append] at hn
      exact hn.elim ((h s List.mem_cons_self).isInner n) (hrest n)

theorem names_of_isFileName (h : Manifest.IsFileName name) : Path.IsInner name ∧
    (Path.names name = [Manifest.rootFile] ∨
      ∃ inner, inner ≠ [] ∧ Path.names name = Manifest.directory :: inner) := by
  rcases h with rfl | ⟨segments, hne, hplain, rfl⟩
  · have hroot : Path.IsPlain Manifest.rootFile := by constructor <;> decide
    exact ⟨hroot.isInner, .inl hroot.names_eq⟩
  · have hinner := isInner_join_rs hne hplain
    rw [String.append_assoc]
    have hdirectory := FileTree.isPlain_directory
    have hnames : Path.names (Manifest.directory ++ "/" ++ (Text.join "/" segments ++ ".rs")) =
        Manifest.directory :: Path.names (Text.join "/" segments ++ ".rs") := by
      rw [Path.names_append_slash, hdirectory.names_eq]
      rfl
    refine ⟨?_, .inr ⟨_, Path.names_ne_nil _, hnames⟩⟩
    intro n hn
    rw [hnames] at hn
    rcases List.mem_cons.1 hn with rfl | hn
    · exact hdirectory
    · exact hinner n hn

end FileNames

namespace Report

variable {r : Report} {extension : String}

def paths (r : Report) : List (List String) :=
  r.files.map fun f => Path.names f.1

theorem mem_files {f : String × String} : f ∈ r.files ↔
    (∃ a ∈ r.artifacts, (a.fileName, a.content) = f) ∨
      ∃ m ∈ r.manifests, (m.fileName, m.content) = f := by
  rw [files, List.mem_append, List.mem_map, List.mem_map]

theorem mem_paths {path : List String} : path ∈ r.paths ↔
    (∃ a ∈ r.artifacts, Path.names a.fileName = path) ∨
      ∃ m ∈ r.manifests, Path.names m.fileName = path := by
  simp only [paths, files, List.map_append, List.map_map, List.mem_append, List.mem_map]
  rfl

theorem isSome_contentAt?_iff {path : List String} :
    (r.contentAt? path).isSome ↔ path ∈ r.paths := by
  rw [contentAt?, Option.isSome_map, List.find?_isSome, paths, List.mem_map]
  simp only [beq_iff_eq]

namespace IsWritable

variable (hr : r.IsWritable extension)

include hr

theorem contentAt?_names {f : String × String} (hf : f ∈ r.files) :
    r.contentAt? (Path.names f.1) = some f.2.toUTF8 := by
  have hsome : (r.files.find? fun g => Path.names g.1 == Path.names f.1).isSome := by
    rw [List.find?_isSome]
    exact ⟨f, hf, beq_self_eq_true _⟩
  obtain ⟨g, hg⟩ := Option.isSome_iff_exists.1 hsome
  have hname : g.1 = f.1 := Path.names_injective (beq_iff_eq.1 (List.find?_some hg :))
  have heq : g = f := List.inj_on_of_nodup_map hr.nodup (List.mem_of_find?_eq_some hg) hf hname
  rw [contentAt?, hg, heq]
  rfl

theorem names_artifact {a : Artifact} (ha : a ∈ r.artifacts) :
    Path.names a.fileName = [a.fileName] :=
  (isPlain_of_endsWith (hr.artifact a ha).1 (hr.artifact a ha).2).names_eq

theorem isInner {f : String × String} (hf : f ∈ r.files) : Path.IsInner f.1 := by
  rcases mem_files.1 hf with ⟨a, ha, rfl⟩ | ⟨m, hm, rfl⟩
  · exact (isPlain_of_endsWith (hr.artifact a ha).1 (hr.artifact a ha).2).isInner
  · exact (names_of_isFileName (hr.manifest m hm)).1

/-- Only companions have their names. -/
theorem singleton_mem_paths {name : String}
    (hname : name.endsWith (Artifact.ending extension) = true) :
    [name] ∈ r.paths ↔ ∃ a ∈ r.artifacts, a.fileName = name := by
  rw [mem_paths]
  constructor
  · rintro (⟨a, ha, hnames⟩ | ⟨m, hm, hnames⟩)
    · rw [hr.names_artifact ha] at hnames
      exact ⟨a, ha, List.head_eq_of_cons_eq hnames⟩
    · rcases (names_of_isFileName (hr.manifest m hm)).2 with hroot | ⟨inner, hne, hinner⟩
      · rw [hroot] at hnames
        obtain rfl := List.head_eq_of_cons_eq hnames
        exact absurd hname not_endsWith_rootFile
      · rw [hinner] at hnames
        exact absurd (List.tail_eq_of_cons_eq hnames) hne
  · rintro ⟨a, ha, rfl⟩
    exact .inl ⟨a, ha, hr.names_artifact ha⟩

/-- Only manifests are in their folder. -/
theorem directory_mem_paths {inner : List String} (hinner : inner ≠ []) :
    Manifest.directory :: inner ∈ r.paths ↔
      ∃ m ∈ r.manifests, Path.names m.fileName = Manifest.directory :: inner := by
  rw [mem_paths, or_iff_right]
  rintro ⟨a, ha, hnames⟩
  rw [hr.names_artifact ha] at hnames
  exact hinner (List.tail_eq_of_cons_eq hnames).symm

/-- What the two sweeps look for is managed and not in the report. -/
theorem old_iff (path : List String) :
    ((∃ name, path = [name] ∧ name.endsWith (Artifact.ending extension) = true ∧
        name ∉ r.artifacts.map Artifact.fileName) ∨
      (∃ inner, inner ≠ [] ∧ path = Manifest.directory :: inner) ∧
        path ∉ (r.manifests.map Manifest.fileName).map Path.names) ↔
    Output.IsManaged extension path ∧ path ∉ r.paths := by
  constructor
  · rintro (⟨name, rfl, hname, hnot⟩ | ⟨⟨inner, hinner, rfl⟩, hnot⟩)
    · refine ⟨.inl ⟨name, rfl, hname⟩, fun hmem => hnot ?_⟩
      exact List.mem_map.2 ((hr.singleton_mem_paths hname).1 hmem)
    · refine ⟨.inr ⟨inner, hinner, rfl⟩, fun hmem => hnot ?_⟩
      rw [List.map_map]
      exact List.mem_map.2 ((hr.directory_mem_paths hinner).1 hmem)
  · rintro ⟨⟨name, rfl, hname⟩ | ⟨inner, hinner, rfl⟩, hnot⟩
    · refine .inl ⟨name, rfl, hname, fun hmem => hnot ?_⟩
      exact (hr.singleton_mem_paths hname).2 (List.mem_map.1 hmem)
    · refine .inr ⟨⟨inner, hinner, rfl⟩, fun hmem => hnot ?_⟩
      rw [List.map_map] at hmem
      exact (hr.directory_mem_paths hinner).2 (List.mem_map.1 hmem)

end IsWritable

end Report

namespace FileTree

variable {t u : FileTree} {folder extension : String} {r : Report} {o : WriteOutcome}

theorem precedes_iff (a b : String) : (decide (a < b) || a == b) = true ↔ a < b ∨ a = b := by
  rw [Bool.or_eq_true, decide_eq_true_eq, beq_iff_eq]

theorem pairwise_lt_mergeSort {names : List String} (h : names.Nodup) :
    (names.mergeSort fun a b => decide (a < b) || a == b).Pairwise (· < ·) := by
  have hsorted : (names.mergeSort fun a b => decide (a < b) || a == b).Pairwise
      fun a b => (decide (a < b) || a == b) = true := by
    apply List.pairwise_mergeSort
    · intro a b c hab hbc
      rw [precedes_iff] at hab hbc ⊢
      rcases hab with hab | rfl
      · rcases hbc with hbc | rfl
        · exact .inl (String.lt_trans hab hbc)
        · exact .inl hab
      · exact hbc
    · intro a b
      rw [Bool.or_eq_true, precedes_iff, precedes_iff]
      rcases Std.lt_trichotomy a b with h | h | h
      · exact .inl (.inl h)
      · exact .inl (.inr h)
      · exact .inr (.inl h)
  have hdistinct : (names.mergeSort fun a b => decide (a < b) || a == b).Nodup :=
    (List.mergeSort_perm names _).nodup_iff.2 h
  refine (hsorted.and hdistinct).imp fun ⟨hle, hne⟩ => ?_
  exact ((precedes_iff _ _).1 hle).resolve_right hne

/-- The two halves of a run: it puts all files of the report, then sweeps the old ones. -/
theorem phases_of_ends_writeReport (ht : t.WellFormed) (hr : r.IsWritable extension)
    (h : Ends (storage.writeReport folder extension r) t o u) :
    ∃ v w gone, Grows t v ∧ PutsAll (Path.resolved folder) r.files v w ∧
      Sweeps (Path.resolved folder) (fun path => Output.IsManaged extension path ∧ path ∉ r.paths)
        gone w u ∧
      u.locate folder = .ok (Path.resolved folder) ∧
      o.written = t.namesUpToDate (Path.resolved folder) false r.files ∧
      o.unchanged = t.namesUpToDate (Path.resolved folder) true r.files ∧
      o.removed = gone.mergeSort fun a b => decide (a < b) || a == b := by
  obtain ⟨done, v, hensure, h⟩ := ends_bind.1 h
  obtain ⟨outcome, w, hupdate, h⟩ := ends_bind.1 h
  obtain ⟨companions, x, hcompanions, h⟩ := ends_bind.1 h
  obtain ⟨manifests, y, hmanifests, h⟩ := ends_bind.1 h
  obtain ⟨rfl, rfl⟩ := ends_pure.1 h
  obtain ⟨hgrows, hthere⟩ := grows_of_ends_ensureFolders hensure
  -- the empty path has no entries, so that the sweep would have failed
  have hfolder : folder ≠ "" := by
    obtain ⟨names, between, hentries, -⟩ := ends_bind.1 hcompanions
    obtain ⟨-, entries, hfind, -⟩ := ends_entries.1 hentries
    obtain ⟨dir, hdir, -⟩ := find_eq_ok_iff.1 hfind
    exact (locate_eq_ok_iff.1 hdir).1
  obtain ⟨dir, hdir, -⟩ := hasFolder_iff.1 (hthere hfolder)
  obtain rfl := locate_eq_resolved hdir
  obtain ⟨hputs, hwritten, hunchanged⟩ :=
    puts_of_ends_updateAll hdir (fun f hf => hr.isInner hf) hr.nodup hupdate
  have hdir := locate_mono hputs.folder hdir
  have hw : w.WellFormed := hputs.wellFormed (hgrows.wellFormed ht)
  have hfirst := sweeps_of_ends_removeCompanions hdir hw hcompanions
  have hsecond := sweeps_of_ends_removeManifests (hfirst.locate hdir) (hfirst.wellFormed hw)
    hmanifests
  have hboth := hfirst.append hsecond
  -- folders that were added hold no files
  have hsame : ∀ upToDate, v.namesUpToDate (Path.resolved folder) upToDate r.files =
      t.namesUpToDate (Path.resolved folder) upToDate r.files :=
    namesUpToDate_congr fun f _ => hgrows.fileAt?_eq _
  refine ⟨v, w, companions ++ manifests, hgrows, hputs, ?_, hboth.locate hdir, ?_, ?_, rfl⟩
  · exact hboth.congr fun path _ => hr.old_iff path
  · exact hwritten.trans (hsame false)
  · exact hunchanged.trans (hsame true)

/-- The files that a run removes are those that the second half takes away. -/
theorem removed_iff_of_phases {v w : FileTree} {dir gone : List String} (hgrows : Grows t v)
    (hputs : PutsAll dir r.files v w)
    (hsweeps : Sweeps dir (fun path => Output.IsManaged extension path ∧ path ∉ r.paths) gone w u)
    (path : List String) : ((t.fileAt? path).isSome ∧ u.fileAt? path = none) ↔
      ∃ name ∈ gone, path = dir ++ Path.names name := by
  have hkept : (∀ f ∈ r.files, path ≠ dir ++ Path.names f.1) → w.fileAt? path = t.fileAt? path :=
    fun hpath => by rw [hputs.others path hpath, hgrows.fileAt?_eq]
  constructor
  · rintro ⟨hfile, hnone⟩
    by_contra hnot
    have hgone : path ∉ gone.map fun name => dir ++ Path.names name := by
      intro hmem
      obtain ⟨name, hname, heq⟩ := List.mem_map.1 hmem
      exact hnot ⟨name, hname, heq.symm⟩
    rw [hsweeps.fileAt?, if_neg hgone] at hnone
    -- what was not swept away was either never touched or has just been written
    by_cases hpath : ∀ f ∈ r.files, path ≠ dir ++ Path.names f.1
    · rw [hkept hpath] at hnone
      rw [hnone] at hfile
      cases hfile
    · simp only [not_forall, not_not] at hpath
      obtain ⟨f, hf, rfl⟩ := hpath
      rw [hputs.content f hf] at hnone
      cases hnone
  · rintro ⟨name, hname, rfl⟩
    obtain ⟨⟨-, hnot⟩, hfile⟩ := (hsweeps.mem_iff _).1 (List.mem_map_of_mem hname)
    rw [hkept] at hfile
    · refine ⟨hfile, ?_⟩
      rw [hsweeps.fileAt?, if_pos (List.mem_map_of_mem hname)]
    · intro f hf heq
      exact hnot (List.mem_map.2 ⟨f, hf, (List.append_cancel_left heq).symm⟩)

section Written

variable (ht : t.WellFormed) (hr : r.IsWritable extension)
  (h : Ends (storage.writeReport folder extension r) t o u)

include ht hr h

theorem wellFormed_of_ends_writeReport : u.WellFormed := by
  obtain ⟨v, w, gone, hgrows, hputs, hsweeps, -⟩ := phases_of_ends_writeReport ht hr h
  exact hsweeps.wellFormed (hputs.wellFormed (hgrows.wellFormed ht))

/-- At managed paths and at those of its files the report tells what there is. -/
theorem fileAt?_eq_contentAt? {path : List String}
    (hpath : Output.IsManaged extension path ∨ path ∈ r.paths) :
    u.fileAt? (Path.resolved folder ++ path) = r.contentAt? path := by
  obtain ⟨v, w, gone, hgrows, hputs, hsweeps, -⟩ := phases_of_ends_writeReport ht hr h
  rw [hsweeps.fileAt?]
  by_cases hmem : path ∈ r.paths
  · obtain ⟨f, hf, rfl⟩ := List.mem_map.1 hmem
    rw [if_neg fun hgone => ((hsweeps.gone_iff _).1 hgone).1.2 hmem, hputs.content f hf,
      hr.contentAt?_names hf]
  · have hmanaged := hpath.resolve_right hmem
    have hnone : r.contentAt? path = none := by
      rw [← Option.not_isSome_iff_eq_none, Report.isSome_contentAt?_iff]
      exact hmem
    rw [hnone]
    split
    · rfl
    · rename_i hkept
      rw [← Option.not_isSome_iff_eq_none]
      exact fun hfile => hkept ((hsweeps.gone_iff path).2 ⟨⟨hmanaged, hmem⟩, hfile⟩)

theorem fileAt?_eq_of_not_managed {path : List String}
    (hfiles : ∀ f ∈ r.files, path ≠ Path.resolved folder ++ Path.names f.1)
    (hmanaged : ∀ inner, Output.IsManaged extension inner → path ≠ Path.resolved folder ++ inner) :
    u.fileAt? path = t.fileAt? path := by
  obtain ⟨v, w, gone, hgrows, hputs, hsweeps, -⟩ := phases_of_ends_writeReport ht hr h
  rw [hsweeps.fileAt?, if_neg, hputs.others path hfiles, hgrows.fileAt?_eq]
  intro hmem
  obtain ⟨name, hname, rfl⟩ := List.mem_map.1 hmem
  obtain ⟨⟨hold, -⟩, -⟩ := (hsweeps.mem_iff _).1 (List.mem_map_of_mem hname)
  exact hmanaged _ hold rfl

theorem isWritten_of_ends_writeReport : r.IsWritten folder extension t u o := by
  have hmanaged : ∀ path, Output.IsManaged extension path →
      ((u.fileAt? (Path.resolved folder ++ path)).isSome ↔ path ∈ r.paths) := fun path hpath => by
    rw [fileAt?_eq_contentAt? ht hr h (.inl hpath), Report.isSome_contentAt?_iff]
  obtain ⟨v, w, gone, hgrows, hputs, hsweeps, hdir, hwritten, hunchanged, hremoved⟩ :=
    phases_of_ends_writeReport ht hr h
  refine ⟨fun f hf => ?_, fun name hname => ?_, fun inner hinner => ?_, fun path hfiles hpath =>
    fileAt?_eq_of_not_managed ht hr h hfiles hpath, ?_, fun f hf => ?_, ?_, fun path => ?_⟩
  · rw [read_join_eq_ok_iff hdir (hr.isInner hf),
      fileAt?_eq_contentAt? ht hr h (.inr (List.mem_map_of_mem hf)), hr.contentAt?_names hf]
  · rw [hmanaged _ (.inl ⟨name, rfl, hname⟩), hr.singleton_mem_paths hname]
  · rw [hmanaged _ (.inr ⟨inner, hinner, rfl⟩), hr.directory_mem_paths hinner]
  · rw [hwritten, hunchanged]
    exact t.namesUpToDate_perm (Path.resolved folder) r.files
  · rw [hunchanged]
    exact mem_namesUpToDate hr.nodup hf
  · rw [hremoved]
    exact pairwise_lt_mergeSort hsweeps.nodup
  · rw [hremoved]
    simp only [List.mem_mergeSort]
    exact removed_iff_of_phases hgrows hputs hsweeps path

end Written

end FileTree

namespace Output

open FileTree

/-- Successful runs into one folder, one after the other. -/
inductive History (folder extension : String) : FileTree → List Report → FileTree → Prop
  | nil (t : FileTree) : History folder extension t [] t
  | snoc {t u v : FileTree} {reports : List Report} {r : Report} {o : WriteOutcome} :
      History folder extension t reports u → r.IsWritable extension →
        Ends (storage.writeReport folder extension r) u o v →
          History folder extension t (reports ++ [r]) v

theorem History.wellFormed {folder extension : String} {t u : FileTree} {reports : List Report}
    (h : History folder extension t reports u) (ht : t.WellFormed) : u.WellFormed := by
  induction h with
  | nil => exact ht
  | snoc hbefore hr hlast ih => exact wellFormed_of_ends_writeReport ih hr hlast

theorem History.exists_last {folder extension : String} {t u : FileTree} {reports : List Report}
    {r : Report} (h : History folder extension t (reports ++ [r]) u) :
    ∃ between o, History folder extension t reports between ∧ r.IsWritable extension ∧
      Ends (storage.writeReport folder extension r) between o u := by
  generalize hall : reports ++ [r] = all at h
  cases h with
  | nil => exact absurd hall (by simp)
  | snoc hbefore hr hlast =>
    obtain ⟨rfl, hr'⟩ := List.append_inj' hall rfl
    obtain rfl := List.head_eq_of_cons_eq hr'
    exact ⟨_, _, hbefore, hr, hlast⟩

/-- One run settles all managed files and no others; after any number of runs the managed files are
those of the last report. -/
theorem writeReport_settles_managed_files (folder extension : String) :
    (∀ t r o u, t.WellFormed → r.IsWritable extension →
      Ends (storage.writeReport folder extension r) t o u → r.IsWritten folder extension t u o) ∧
    ∀ t reports r u, t.WellFormed → History folder extension t (reports ++ [r]) u →
      ∀ path, IsManaged extension path ∨ path ∈ r.paths →
        u.fileAt? (Path.resolved folder ++ path) = r.contentAt? path := by
  refine ⟨fun t r o u ht hr h => isWritten_of_ends_writeReport ht hr h,
    fun t reports r u ht h path hpath => ?_⟩
  obtain ⟨between, o, hbefore, hr, hlast⟩ := h.exists_last
  exact fileAt?_eq_contentAt? (hbefore.wellFormed ht) hr hlast hpath

/-- A report with one companion, for the root and the given modules. -/
def reportOf (name : String) (modules : List String) : Report where
  artifacts := [⟨name ++ Artifact.ending "rs", name, name⟩]
  diagnostics := []
  manifests := ("" :: modules).map fun m => ⟨m, Manifest.fileNameOf m, m⟩

theorem isWritable_reportOf_card : (reportOf "Card" ["ui"]).IsWritable "rs" := by
  refine ⟨by decide +kernel, by decide +kernel, ?_⟩
  have hui : Path.IsPlain "ui" := by constructor <;> decide
  intro m hm
  rcases List.mem_cons.1 hm with rfl | hm
  · exact .inl rfl
  · obtain rfl := List.mem_singleton.1 hm
    exact .inr ⟨["ui"], List.cons_ne_nil _ _, by simpa using hui, by decide +kernel⟩

theorem isWritable_reportOf_form : (reportOf "Form" []).IsWritable "rs" := by
  refine ⟨by decide +kernel, by decide +kernel, fun m hm => ?_⟩
  obtain rfl := List.mem_singleton.1 hm
  exact .inl rfl

/-- Two runs into an empty folder. The second knows nothing of what the first generated. -/
theorem writeReport_settles_managed_files_twice :
    ∃ o u, (reportOf "Card" ["ui"]).IsWritten "out" "rs" .empty u o ∧
      ∃ v, History "out" "rs" .empty ([reportOf "Card" ["ui"]] ++ [reportOf "Form" []]) v ∧
        v.fileAt? ["out", "Form.generated.rs"] = some "Form".toUTF8 ∧
        v.fileAt? ["out", "Card.generated.rs"] = none ∧
        v.fileAt? ["out", "porbeagle_views", "ui.rs"] = none := by
  let first := storage.writeReport "out" "rs" (reportOf "Card" ["ui"])
  let second := storage.writeReport "out" "rs" (reportOf "Form" [])
  obtain ⟨o, hfirst⟩ : ∃ o, Ends first .empty o (first.run.run .empty).2 :=
    exists_ends_of_isSome (by decide +kernel)
  obtain ⟨o', hsecond⟩ : ∃ o', Ends second (first.run.run .empty).2 o' _ :=
    exists_ends_of_isSome (by decide +kernel)
  have hone : History "out" "rs" .empty [reportOf "Card" ["ui"]] (first.run.run .empty).2 :=
    (History.nil .empty).snoc isWritable_reportOf_card hfirst
  have htwo := hone.snoc isWritable_reportOf_form hsecond
  have hresolved : Path.resolved "out" = ["out"] := by decide +kernel
  have hlast := (writeReport_settles_managed_files "out" "rs").2 _ _ _ _ .empty htwo
  rw [hresolved] at hlast
  refine ⟨o, _, (writeReport_settles_managed_files "out" "rs").1 _ _ _ _ .empty
    isWritable_reportOf_card hfirst, _, htwo, ?_, ?_, ?_⟩
  · exact (hlast ["Form.generated.rs"] (.inl (.inl ⟨_, rfl, by decide +kernel⟩))).trans
      (by decide +kernel)
  · exact (hlast ["Card.generated.rs"] (.inl (.inl ⟨_, rfl, by decide +kernel⟩))).trans
      (by decide +kernel)
  · exact (hlast ["porbeagle_views", "ui.rs"] (.inl (.inr ⟨["ui.rs"], by simp, rfl⟩))).trans
      (by decide +kernel)

end Output

end ViewCompanion
