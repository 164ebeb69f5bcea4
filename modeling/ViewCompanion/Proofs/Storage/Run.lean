import ViewCompanion.Output
import ViewCompanion.Proofs.Storage.Change

namespace ViewCompanion.FileTree

open Storage

abbrev Action (α : Type) := ExceptT Failure (StateM FileTree) α

/-- The action succeeds on `t` with result `a`, and leaves `u`. -/
def Ends {α : Type} (action : Action α) (t : FileTree) (a : α) (u : FileTree) : Prop :=
  action.run.run t = (.ok a, u)

section Ends

variable {α β : Type} {t u : FileTree} {a b : α}

theorem ends_pure : Ends (pure a) t b u ↔ b = a ∧ u = t := by
  show (Except.ok a, t) = (Except.ok b, u) ↔ _
  rw [Prod.mk.injEq, Except.ok.injEq, eq_comm, @eq_comm _ t]

theorem run_bind (action : Action α) (next : α → Action β) (t : FileTree) :
    (action >>= next).run.run t = match action.run.run t with
      | (.ok a, between) => (next a).run.run between
      | (.error failure, between) => (.error failure, between) := by
  rw [ExceptT.run_bind, StateT.run_bind]
  cases h : StateT.run (ExceptT.run action) t with
  | mk result between => cases result <;> rfl

theorem ends_bind {action : Action α} {next : α → Action β} {b : β} :
    Ends (action >>= next) t b u ↔
      ∃ a between, Ends action t a between ∧ Ends (next a) between b u := by
  unfold Ends
  rw [run_bind]
  cases h : StateT.run (ExceptT.run action) t with
  | mk result between =>
    constructor
    · intro hb
      cases result with
      | error failure => cases hb
      | ok a => exact ⟨a, between, rfl, hb⟩
    · rintro ⟨a, between', ha, hb⟩
      cases ha
      exact hb

theorem run_lift (action : StateM FileTree α) (t : FileTree) :
    (liftM action : Action α).run.run t = (.ok (action.run t).1, (action.run t).2) :=
  rfl

theorem ends_lift {action : StateM FileTree α} :
    Ends (liftM action) t a u ↔ action.run t = (a, u) := by
  unfold Ends
  rw [run_lift, Prod.mk.injEq, Except.ok.injEq, ← Prod.mk.injEq]
  rfl

theorem ends_onPath {path : String} {action : StateM FileTree (Except Trouble α)} :
    Ends (onPath path action) t a u ↔ action.run t = (.ok a, u) := by
  unfold onPath
  rw [ends_bind]
  constructor
  · rintro ⟨result, between, hresult, h⟩
    rw [ends_lift] at hresult
    cases result with
    | error trouble => cases h
    | ok b =>
      obtain ⟨rfl, rfl⟩ := ends_pure.1 h
      exact hresult
  · intro h
    exact ⟨.ok a, u, ends_lift.2 h, ends_pure.2 ⟨rfl, rfl⟩⟩

theorem exists_ends_of_isSome {action : Action α}
    (h : (action.run.run t).1.toOption.isSome = true) :
    ∃ a, Ends action t a (action.run.run t).2 := by
  unfold Ends
  cases hrun : action.run.run t with
  | mk result u =>
    rw [hrun] at h
    cases result with
    | error failure => cases h
    | ok a => exact ⟨a, rfl⟩

end Ends

section Operations

variable {t u : FileTree} {path : String}

theorem toUTF8_fromUTF8? {bytes : ByteArray} {text : String} :
    String.fromUTF8? bytes = some text ↔ bytes = text.toUTF8 := by
  unfold String.fromUTF8?
  constructor
  · intro h
    split at h
    · obtain rfl := Option.some.inj h
      rfl
    · cases h
  · rintro rfl
    exact dif_pos text.isValidUTF8

def textOf : Except Trouble ByteArray → Except Trouble String
  | .ok bytes =>
    match String.fromUTF8? bytes with
    | some text => .ok text
    | none => .error .notText
  | .error trouble => .error trouble

theorem textOf_eq_ok_iff {bytes : Except Trouble ByteArray} {text : String} :
    textOf bytes = .ok text ↔ bytes = .ok text.toUTF8 := by
  cases bytes with
  | error trouble => simp [textOf]
  | ok bytes =>
    rw [Except.ok.injEq, ← toUTF8_fromUTF8?, textOf]
    cases String.fromUTF8? bytes <;> simp

theorem run_readText (path : String) (t : FileTree) :
    (storage.readText path).run t = (textOf (t.read path), t) := by
  show (match t.read path with | .ok bytes => _ | .error trouble => _ : StateM FileTree _).run t = _
  cases t.read path with
  | error trouble => rfl
  | ok bytes =>
    unfold textOf
    dsimp only
    cases String.fromUTF8? bytes <;> rfl

theorem run_hasFolder (path : String) (t : FileTree) :
    (storage.hasFolder path).run t = (t.hasFolder path, t) := by
  have hread : (storage.read path).run t = (t.read path, t) := rfl
  rw [Storage.hasFolder, StateT.run_bind, hread]
  unfold hasFolder
  cases t.read path with
  | error trouble => cases trouble <;> rfl
  | ok bytes => rfl

theorem changing_eq_ok_iff {f : FileTree → Except Trouble FileTree} :
    (changing f).run t = (.ok (), u) ↔ f t = .ok u := by
  show changing f t = _ ↔ _
  unfold changing
  cases f t with
  | error trouble => constructor <;> intro h <;> cases h
  | ok v =>
    constructor
    · intro h
      cases h
      rfl
    · intro h
      cases h
      rfl

theorem changing_of_error {f : FileTree → Except Trouble FileTree} {trouble : Trouble}
    (h : f t = .error trouble) : (changing f).run t = (.error trouble, t) := by
  show changing f t = _
  unfold changing
  rw [h]

theorem storage_createFolder (path : String) :
    storage.createFolder path = changing fun t => t.createFolder path := by
  rw [storage]

end Operations

/-- Folders may have been added; nothing else is different. -/
structure Grows (t u : FileTree) : Prop where
  node? : ∀ q, u.node? q = t.node? q ∨ t.node? q = none ∧ u.node? q = some .folder
  wellFormed : t.WellFormed → u.WellFormed

namespace Grows

variable {t u v : FileTree}

theorem refl (t : FileTree) : Grows t t :=
  ⟨fun _ => .inl rfl, id⟩

theorem trans (htu : Grows t u) (huv : Grows u v) : Grows t v := by
  refine ⟨fun q => ?_, fun h => huv.wellFormed (htu.wellFormed h)⟩
  rcases htu.node? q with h | ⟨hnone, hfolder⟩
  · rw [← h]
    exact huv.node? q
  · rcases huv.node? q with h | ⟨h, -⟩
    · exact .inr ⟨hnone, h.trans hfolder⟩
    · rw [h] at hfolder
      cases hfolder

theorem folder (h : Grows t u) {q : List String} (hq : t.node? q = some .folder) :
    u.node? q = some .folder := by
  rcases h.node? q with heq | ⟨hnone, -⟩
  · exact heq.trans hq
  · rw [hnone] at hq
    cases hq

theorem fileAt?_eq (h : Grows t u) (q : List String) : u.fileAt? q = t.fileAt? q := by
  unfold fileAt?
  rcases h.node? q with heq | ⟨hnone, hfolder⟩
  · rw [heq]
  · rw [hnone, hfolder]

theorem of_createFolder {path : String} (h : t.createFolder path = .ok u) : Grows t u := by
  obtain ⟨p, -, hfree, hnode⟩ := node?_of_createFolder h
  refine ⟨fun q => ?_, fun ht => ht.createFolder h⟩
  rw [hnode]
  split
  · rename_i hq
    exact .inr ⟨hq ▸ hfree, rfl⟩
  · exact .inl rfl

end Grows

section EnsureFolders

variable {t u : FileTree} {path : String}

theorem ensureFolder_grows (path : String) (t : FileTree) :
    ∃ result u, (storage.ensureFolder path).run t = (result, u) ∧ Grows t u ∧
      (result = .ok () → u.hasFolder path = true) := by
  cases hcreate : t.createFolder path with
  | ok u =>
    have hmade : (storage.createFolder path).run t = (.ok (), u) := by
      rw [storage_createFolder]
      exact changing_eq_ok_iff.2 hcreate
    have hrun : (storage.ensureFolder path).run t = (.ok (), u) := by
      rw [ensureFolder, StateT.run_bind, hmade]
      rfl
    refine ⟨.ok (), u, hrun, .of_createFolder hcreate, fun _ => ?_⟩
    have hgrows := Grows.of_createFolder hcreate
    obtain ⟨p, hp, -, hnode⟩ := node?_of_createFolder hcreate
    have hfolder : u.node? p = some .folder := by rw [hnode, if_pos rfl]
    exact hasFolder_iff.2
      ⟨p, locate_of_locate_trimEnd (locate_mono (fun _ => hgrows.folder) hp) hfolder, hfolder⟩
  | error trouble =>
    have hrun : (storage.ensureFolder path).run t =
        (if t.hasFolder path then .ok () else .error trouble, t) := by
      have hnot : (storage.createFolder path).run t = (.error trouble, t) := by
        rw [storage_createFolder]
        exact changing_of_error hcreate
      rw [ensureFolder, StateT.run_bind, hnot]
      show StateT.run (storage.hasFolder path >>= _) t = _
      rw [StateT.run_bind, run_hasFolder]
      cases t.hasFolder path <;> rfl
    -- the folder counts as made only if it was there before
    refine ⟨_, t, hrun, .refl t, fun hok => ?_⟩
    by_contra hnot
    rw [if_neg hnot] at hok
    cases hok

theorem ensureFoldersFor_grows (n : Nat) (path : String) (t : FileTree) :
    ∃ result u, (storage.ensureFoldersFor n path).run t = (result, u) ∧ Grows t u ∧
      (result = .ok () → path ≠ "" → u.hasFolder path = true) := by
  induction n generalizing path t with
  | zero => exact ⟨.error .notFound, t, rfl, .refl t, nofun⟩
  | succ n ih =>
    by_cases hempty : path = ""
    · subst hempty
      exact ⟨.ok (), t, rfl, .refl t, fun _ h => absurd rfl h⟩
    · obtain ⟨result, u, hrun, hgrows, hthere⟩ := ensureFolder_grows path t
      rw [ensureFoldersFor, if_neg (by simpa using hempty), StateT.run_bind, hrun]
      by_cases hmissing : result = .error .notFound
      · -- the folders around it are missing as well
        subst hmissing
        obtain ⟨result', v, hrun', hgrows', -⟩ := ih ((Path.parent? path).getD "") u
        show ∃ result w, StateT.run (storage.ensureFoldersFor n _ >>= _) u = _ ∧ _
        rw [StateT.run_bind, hrun']
        cases result' with
        | error trouble => exact ⟨.error trouble, v, rfl, hgrows.trans hgrows', nofun⟩
        | ok done =>
          obtain ⟨result'', w, hrun'', hgrows'', hthere''⟩ := ensureFolder_grows path v
          exact ⟨result'', w, hrun'', (hgrows.trans hgrows').trans hgrows'',
            fun hok _ => hthere'' hok⟩
      · refine ⟨result, u, ?_, hgrows, fun hok _ => hthere hok⟩
        cases result with
        | ok done => rfl
        | error trouble =>
          cases trouble with
          | notFound => exact absurd rfl hmissing
          | _ => rfl

theorem grows_of_ends_ensureFolders {about : String} {a : Unit}
    (h : Ends (onPath about (storage.ensureFolders path)) t a u) :
    Grows t u ∧ (path ≠ "" → u.hasFolder path = true) := by
  obtain ⟨result, v, hrun, hgrows, hthere⟩ := ensureFoldersFor_grows (path.length + 1) path t
  have hends : (storage.ensureFolders path).run t = (.ok a, u) := ends_onPath.1 h
  rw [ensureFolders, hrun] at hends
  cases hends
  exact ⟨hgrows, hthere rfl⟩

end EnsureFolders

end ViewCompanion.FileTree
