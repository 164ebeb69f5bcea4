import ViewCompanion.Config.Loading
import ViewCompanion.Proofs.Crate.Files

namespace ViewCompanion.FileTree

open Source Storage

def result {α : Type} (t : FileTree) (action : Action α) : Except Failure α :=
  (action.run.run t).1

theorem Ends.result_eq {α : Type} {action : Action α} {t u : FileTree} {a : α}
    (h : Ends action t a u) : t.result action = .ok a :=
  congrArg Prod.fst h

/-- Whatever the action fails with, it is not that views have no companion. -/
def SparesViews {α : Type} (action : Action α) : Prop :=
  ∀ (t : FileTree) failed, t.result action ≠ .error (.generation failed)

/-- The action leaves every tree as it is, if it fails too. -/
structure Reads {α : Type} (action : Action α) : Prop where
  keeps : ∀ t, (action.run.run t).2 = t
  spares : SparesViews action

section Spares

variable {α β : Type} {action : Action α}

theorem spares_pure (a : α) : SparesViews (pure a) :=
  nofun

theorem spares_storage (path : String) (trouble : Trouble) :
    SparesViews (throw (.storage path trouble) : Action α) :=
  nofun

theorem spares_lift (look : StateM FileTree α) : SparesViews (liftM look) :=
  nofun

theorem SparesViews.bind {next : α → Action β} (h : SparesViews action)
    (hnext : ∀ a, SparesViews (next a)) : SparesViews (action >>= next) := by
  intro t failed
  have haction := h t failed
  unfold result at haction ⊢
  rw [run_bind]
  generalize action.run.run t = ended at haction
  obtain ⟨ended, between⟩ := ended
  cases ended with
  | ok a => exact hnext a between failed
  | error failure =>
    intro heq
    cases heq
    exact haction rfl

theorem spares_onPath (path : String) (change : StateM FileTree (Except Trouble α)) :
    SparesViews (onPath path change) := by
  refine (spares_lift change).bind fun ended => ?_
  cases ended with
  | ok a => exact spares_pure a
  | error trouble => exact spares_storage path trouble

theorem SparesViews.mapM {f : α → Action β} (h : ∀ x, SparesViews (f x)) (xs : List α) :
    SparesViews (xs.mapM f) := by
  induction xs with
  | nil => exact spares_pure []
  | cons x rest ih =>
    rw [List.mapM_cons]
    exact (h x).bind fun _ => ih.bind fun _ => spares_pure _

theorem SparesViews.forM {f : α → Action Unit} (h : ∀ x, SparesViews (f x)) (xs : List α) :
    SparesViews (xs.forM f) := by
  induction xs with
  | nil => exact spares_pure ()
  | cons x rest ih => exact (h x).bind fun _ => ih

end Spares

section Writing

theorem spares_update (path text : String) : SparesViews (storage.update path text) := by
  refine (spares_lift _).bind fun old => ?_
  cases old with
  | ok old =>
    dsimp only
    split
    · exact spares_pure _
    · exact (spares_onPath _ _).bind fun _ => spares_pure _
  | error trouble =>
    exact (spares_onPath _ _).bind fun _ => (spares_onPath _ _).bind fun _ => spares_pure _

theorem spares_updateAll (folder : String) (outcome : WriteOutcome)
    (files : List (String × String)) : SparesViews (storage.updateAll folder outcome files) := by
  induction files generalizing outcome with
  | nil => exact spares_pure _
  | cons file rest ih =>
    rw [updateAll]
    refine (spares_update _ _).bind fun written => ?_
    cases written with
    | true => exact ih _
    | false => exact ih _

theorem spares_removeCompanions (folder extension : String) (current : List String) :
    SparesViews (storage.removeCompanions folder extension current) :=
  (spares_onPath _ _).bind fun _ =>
    (SparesViews.forM (fun _ => spares_onPath _ _) _).bind fun _ => spares_pure _

theorem spares_removeBelow (folder : String) (current : List String) (depth : Nat)
    (inner : String) : SparesViews (storage.removeBelow folder current depth inner) := by
  induction depth generalizing inner with
  | zero => exact spares_pure _
  | succ depth ih =>
    rw [removeBelow]
    refine (spares_lift _).bind fun there => ?_
    cases there with
    | true =>
      refine (spares_onPath _ _).bind fun names => ?_
      exact (SparesViews.mapM (fun name => ih _) names).bind fun _ => spares_pure _
    | false =>
      rw [if_neg Bool.false_ne_true]
      split
      · exact spares_pure _
      · exact (spares_onPath _ _).bind fun _ => spares_pure _

theorem spares_removeManifests (folder : String) (current : List String) :
    SparesViews (storage.removeManifests folder current) := by
  refine (spares_lift _).bind fun there => ?_
  cases there with
  | true => exact (spares_lift _).bind fun _ => spares_removeBelow _ _ _ _
  | false => exact spares_pure _

theorem spares_writeReport (folder extension : String) (report : Report) :
    SparesViews (storage.writeReport folder extension report) :=
  (spares_onPath _ _).bind fun _ => (spares_updateAll _ _ _).bind fun _ =>
    (spares_removeCompanions _ _ _).bind fun _ => (spares_removeManifests _ _).bind fun _ =>
      spares_pure _

end Writing

section Reads

variable {α β : Type} {action : Action α}

theorem Reads.run_eq (h : Reads action) (t : FileTree) :
    action.run.run t = (t.result action, t) :=
  Prod.ext rfl (h.keeps t)

theorem reads_pure (a : α) : Reads (pure a) :=
  ⟨fun _ => rfl, spares_pure a⟩

theorem reads_throw {failure : Failure} (h : ∀ failed, failure ≠ .generation failed) :
    Reads (throw failure : Action α) :=
  ⟨fun _ => rfl, fun _ failed heq => h failed (Except.error.inj heq)⟩

theorem Reads.bind {next : α → Action β} (h : Reads action) (hnext : ∀ a, Reads (next a)) :
    Reads (action >>= next) := by
  refine ⟨fun t => ?_, h.spares.bind fun a => (hnext a).spares⟩
  rw [run_bind, h.run_eq]
  cases t.result action with
  | ok a => exact (hnext a).keeps t
  | error failure => rfl

theorem reads_lift {look : StateM FileTree α} (h : ∀ t, (look.run t).2 = t) :
    Reads (liftM look) :=
  ⟨h, spares_lift look⟩

theorem Reads.mapM {f : α → Action β} (h : ∀ x, Reads (f x)) (xs : List α) :
    Reads (xs.mapM f) := by
  induction xs with
  | nil => exact reads_pure []
  | cons x rest ih =>
    rw [List.mapM_cons]
    exact (h x).bind fun _ => ih.bind fun _ => reads_pure _

end Reads

section Loading

theorem reads_readText (path : String) : Reads (liftM (storage.readText path)) :=
  reads_lift fun t => by rw [run_readText]

theorem reads_sourceText (path : String) : Reads (storage.sourceText path) := by
  refine (reads_readText path).bind fun text => ?_
  cases text with
  | ok text => exact reads_pure text
  | error trouble => exact reads_throw nofun

theorem reads_ofFileText (path text : String) :
    Reads (liftM (Config.ofFileText path text) : Action Config) := by
  unfold Config.ofFileText
  split
  · unfold Config.checked
    split
    · exact reads_throw nofun
    · exact reads_pure _
  · exact reads_throw nofun

theorem reads_loadConfig (path : String) : Reads (storage.loadConfig path) := by
  refine (reads_readText path).bind fun text => ?_
  cases text with
  | ok text => exact reads_ofFileText path text
  | error trouble => exact reads_throw nofun

theorem reads_loadConfigIfAny (path : String) : Reads (storage.loadConfigIfAny path) := by
  have hhas : Reads (liftM (storage.has path)) := reads_lift fun t => by rw [run_has]
  refine hhas.bind fun there => ?_
  cases there with
  | true => exact reads_loadConfig path
  | false => exact reads_pure _

theorem reads_firstOf? (paths : List String) : Reads (liftM (storage.firstOf? paths)) :=
  reads_lift fun t => by rw [run_firstOf?]

/-- Reading a file only reads, and so does reading the files of the modules in it. -/
theorem reads_loadFile (depth : Nat) (file home folder : String) :
    Reads (storage.loadFile depth file home folder) := by
  induction depth generalizing file home folder with
  | zero => exact reads_pure _
  | succ depth ih =>
    rw [loadFile]
    refine (reads_sourceText file).bind fun text => ?_
    cases itemsOfFile? text with
    | none => exact reads_throw nofun
    | some items =>
      refine Reads.bind (.mapM (fun part => ?_) _) fun _ => reads_pure _
      cases part with
      | module inner => exact reads_pure _
      | file path folders name =>
        refine (reads_firstOf? _).bind fun found => ?_
        cases found with
        | some inner => exact ih _ _ _
        | none => exact reads_pure _

theorem reads_loadCrate (c : Config) (folder : String) : Reads (storage.loadCrate c folder) := by
  refine (reads_firstOf? _).bind fun found => ?_
  cases found with
  | some file => exact (reads_lift fun _ => rfl).bind fun _ => reads_loadFile _ _ _ _
  | none => exact reads_throw nofun

/-- A settings file that is not there need not be. -/
theorem result_loadConfigIfAny {t : FileTree} {path : String} (h : t.has path = false) :
    t.result (storage.loadConfigIfAny path) = .ok .standard := by
  unfold result loadConfigIfAny
  rw [run_bind, run_lift, run_has, h]
  rfl

theorem result_loadCrate_of_not_root {t : FileTree} {folder : String}
    (h : t.rootFile? folder = none) (c : Config) :
    t.result (storage.loadCrate c folder) = .error (.storage folder .noCrate) := by
  unfold result loadCrate
  rw [run_bind, run_lift, run_firstOf?, show List.find? t.has _ = none from h]
  rfl

end Loading

end ViewCompanion.FileTree
