import ViewCompanion.Crate.Loading
import ViewCompanion.Proofs.Source.ModuleName
import ViewCompanion.Proofs.Storage.Run

namespace ViewCompanion.FileTree

open Source Storage

def has (t : FileTree) (path : String) : Bool :=
  match t.read path with
  | .ok _ => true
  | .error .isFolder => true
  | .error _ => false

/-- What holds the items of a module that is looked for in `folder`, if there is anything. -/
def moduleFile? (t : FileTree) (folder name : String) : Option String :=
  (moduleFiles folder name).find? t.has

def rootFile? (t : FileTree) (folder : String) : Option String :=
  [Path.join folder "lib.rs", Path.join folder "main.rs"].find? t.has

def itemsAt? (t : FileTree) (file : String) : Option (List Item) :=
  (textOf (t.read file)).toOption.bind itemsOfFile?

/-- Where a folder lies. What has no name at all is the outermost folder. -/
inductive StandsAt (t : FileTree) : String → List String → Prop
  | outermost : t.StandsAt "" []
  | located {folder : String} {dir : List String} (h : t.locate folder = .ok dir) :
      t.StandsAt folder dir

variable {t : FileTree} {folder name inner : String} {p : List String} {n : Nat}

section Run

theorem run_has (path : String) (t : FileTree) :
    (storage.has path).run t = (t.has path, t) := by
  have hread : (storage.read path).run t = (t.read path, t) := rfl
  rw [Storage.has, StateT.run_bind, hread]
  unfold has
  cases t.read path with
  | error trouble => cases trouble <;> rfl
  | ok bytes => rfl

theorem run_firstOf? (paths : List String) (t : FileTree) :
    (storage.firstOf? paths).run t = (paths.find? t.has, t) := by
  induction paths with
  | nil => rfl
  | cons path rest ih =>
    rw [firstOf?, StateT.run_bind, run_has, List.find?_cons]
    cases t.has path with
    | true => rfl
    | false => exact ih

theorem ends_sourceText {file text : String} (h : textOf (t.read file) = .ok text) :
    Ends (storage.sourceText file) t text t := by
  unfold sourceText
  rw [ends_bind]
  refine ⟨.ok text, t, ?_, ends_pure.2 ⟨rfl, rfl⟩⟩
  rw [ends_lift, run_readText, h]

end Run

theorem exists_text_of_itemsAt? {file : String} {items : List Item}
    (h : t.itemsAt? file = some items) :
    ∃ text, textOf (t.read file) = .ok text ∧ itemsOfFile? text = some items := by
  obtain ⟨text, htext, hitems⟩ := Option.bind_eq_some_iff.1 h
  refine ⟨text, ?_, hitems⟩
  cases hread : textOf (t.read file) with
  | ok found =>
    rw [hread] at htext
    exact congrArg Except.ok (Option.some.inj htext)
  | error trouble =>
    rw [hread] at htext
    cases htext

section Depth

theorem StandsAt.locate_eq {path : String} (h : t.StandsAt path p) (hne : path ≠ "") :
    t.locate path = .ok p := by
  cases h with
  | outermost => exact absurd rfl hne
  | located h => exact h

theorem exists_of_standsAt_join (hinner : Path.IsPlain inner)
    (h : t.StandsAt (Path.join folder inner) p) :
    ∃ dir, t.StandsAt folder dir ∧ p = dir ++ [inner] := by
  have hlocate := h.locate_eq hinner.isInner.join_ne_empty
  by_cases hfolder : folder = ""
  · subst hfolder
    rw [Path.join_empty] at hlocate
    have hp := locate_eq_resolved hlocate
    rw [Path.resolved, Path.walk_plain hinner.isInner, hinner.names_eq] at hp
    exact ⟨[], .outermost, hp⟩
  · have hboth := hlocate
    rw [locate_join hfolder hinner.isInner] at hboth
    cases hdir : t.locate folder with
    | error trouble =>
      rw [hdir] at hboth
      cases hboth
    | ok dir =>
      have hp := eq_of_locate_join hdir hinner.isInner hlocate
      rw [hinner.names_eq] at hp
      exact ⟨dir, .located hdir, hp⟩

theorem exists_node_of_has {path : String} (h : t.has path = true) :
    ∃ p, t.StandsAt path p ∧ t.node? p ≠ none := by
  have hfind : ∃ u, t.find path = .ok u := by
    cases hfind : t.find path with
    | ok u => exact ⟨u, rfl⟩
    | error trouble =>
      have hne : trouble ≠ .isFolder := fun heq => find_ne_isFolder (heq ▸ hfind)
      have hread : t.read path = .error trouble := by
        unfold read
        rw [hfind]
        rfl
      unfold has at h
      rw [hread] at h
      cases trouble <;> simp_all
  obtain ⟨u, hu⟩ := hfind
  obtain ⟨p, hp, hget⟩ := find_eq_ok_iff.1 hu
  exact ⟨p, .located hp, by simp [node?, hget]⟩

/-- No more than `n` files can follow each other from `folder` on, by the depth of the tree. -/
def Suffices (t : FileTree) (n : Nat) (folder : String) : Prop :=
  ∀ dir, t.StandsAt folder dir → t.depth ≤ n + dir.length

namespace Suffices

theorem depth (t : FileTree) (folder : String) : t.Suffices t.depth folder :=
  fun _ _ => Nat.le_add_right _ _

theorem join (h : t.Suffices n folder) (hname : Path.IsPlain name) :
    t.Suffices n (Path.join folder name) := by
  intro p hp
  obtain ⟨dir, hdir, rfl⟩ := exists_of_standsAt_join hname hp
  have hdepth := h dir hdir
  rw [List.length_append]
  omega

/-- A file that is found takes one of the rounds; those left are enough for what is inside. -/
theorem step {file : String} (h : t.Suffices n folder) (hname : Path.IsPlain name)
    (hfile : t.moduleFile? folder name = some file) :
    ∃ k, n = k + 1 ∧ t.Suffices k (Path.join folder name) := by
  have hthere : t.has file = true := List.find?_some hfile
  obtain ⟨p, hp, hnode⟩ := exists_node_of_has hthere
  have hlength : p.length ≤ t.depth := length_le_depth hnode
  -- the file lies inside the folder, by one name or by two
  have hinside : ∃ dir, t.StandsAt folder dir ∧ dir.length < t.depth := by
    have hmem : file ∈ moduleFiles folder name := List.mem_of_find?_eq_some hfile
    rcases List.mem_cons.1 hmem with rfl | hmem
    · obtain ⟨dir, hdir, rfl⟩ := exists_of_standsAt_join hname.append_rs hp
      refine ⟨dir, hdir, ?_⟩
      rw [List.length_append, List.length_singleton] at hlength
      omega
    · obtain rfl := List.mem_singleton.1 hmem
      have hmod : Path.IsPlain "mod.rs" := Path.isPlain_of_length (by decide) (by decide)
      obtain ⟨outer, houter, rfl⟩ := exists_of_standsAt_join hmod hp
      obtain ⟨dir, hdir, rfl⟩ := exists_of_standsAt_join hname houter
      refine ⟨dir, hdir, ?_⟩
      simp only [List.length_append, List.length_singleton] at hlength
      omega
  obtain ⟨dir, hdir, hshort⟩ := hinside
  have hdepth := h dir hdir
  refine ⟨n - 1, by omega, fun q hq => ?_⟩
  obtain ⟨outer, houter, rfl⟩ := exists_of_standsAt_join hname hq
  have houterDepth := h outer houter
  rw [List.length_append, List.length_singleton]
  omega

end Suffices

end Depth

end ViewCompanion.FileTree
