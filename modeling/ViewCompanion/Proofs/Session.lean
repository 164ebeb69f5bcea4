import ViewCompanion.Proofs.Storage.Reading
import ViewCompanion.Session

namespace ViewCompanion.Session

variable {ε δ α β : Type} {t u : FileTree} {k said : Console}

/-- How a run ends that has said `k` before, what has been said then, and the tree that is left. -/
def runOn (run : Session ε (StateM FileTree) α) (k : Console) (t : FileTree) :
    (Except ε α × Console) × FileTree :=
  (run.run.run k).run t

theorem runOn_pure (a : α) : runOn (pure a : Session ε (StateM FileTree) α) k t =
    ((.ok a, k), t) :=
  rfl

theorem runOn_say (line : String) : runOn (say line : Session ε (StateM FileTree) Unit) k t =
    ((.ok (), k.say line), t) :=
  rfl

theorem runOn_warn (line : String) : runOn (warn line : Session ε (StateM FileTree) Unit) k t =
    ((.ok (), k.warn line), t) :=
  rfl

theorem runOn_bind (run : Session ε (StateM FileTree) α)
    (next : α → Session ε (StateM FileTree) β) (k : Console) (t : FileTree) :
    runOn (run >>= next) k t = match runOn run k t with
      | ((.ok a, said), between) => runOn (next a) said between
      | ((.error e, said), between) => ((.error e, said), between) := by
  unfold runOn
  rw [ExceptT.run_bind, StateT.run_bind, StateT.run_bind]
  cases h : StateT.run (StateT.run (ExceptT.run run) k) t with
  | mk ended between =>
    obtain ⟨ended, said⟩ := ended
    cases ended <;> rfl

theorem runOn_bind_ok {run : Session ε (StateM FileTree) α} {a : α}
    (h : runOn run k t = ((.ok a, said), u)) (next : α → Session ε (StateM FileTree) β) :
    runOn (run >>= next) k t = runOn (next a) said u := by
  rw [runOn_bind, h]

theorem runOn_bind_error {run : Session ε (StateM FileTree) α} {e : ε}
    (h : runOn run k t = ((.error e, said), u)) (next : α → Session ε (StateM FileTree) β) :
    runOn (run >>= next) k t = ((.error e, said), u) := by
  rw [runOn_bind, h]

theorem runOn_forM {f : α → Session ε (StateM FileTree) Unit} {step : Console → α → Console}
    (h : ∀ a k, runOn (f a) k t = ((.ok (), step k a), t)) (xs : List α) :
    runOn (xs.forM f) k t = ((.ok (), xs.foldl step k), t) := by
  induction xs generalizing k with
  | nil => rfl
  | cons a rest ih => exact (runOn_bind_ok (h a k) _).trans ih

theorem runOn_quietly (stop : Failure → ε) (action : FileTree.Action α) (k : Console)
    (t : FileTree) : runOn (quietly stop action) k t = match action.run.run t with
      | (.ok a, u) => ((.ok a, k), u)
      | (.error failure, u) => ((.error (stop failure), k), u) := by
  have hlift : runOn (liftM (m := StateM FileTree) action.run :
      Session ε (StateM FileTree) (Except Failure α)) k t =
      ((.ok (action.run.run t).1, k), (action.run.run t).2) := rfl
  rw [quietly, runOn_bind_ok hlift]
  cases h : StateT.run (ExceptT.run action) t with
  | mk ended u => cases ended <;> rfl

theorem runOn_quietly_reads {action : FileTree.Action α} (h : FileTree.Reads action)
    (stop : Failure → ε) : runOn (quietly stop action) k t =
      (((t.result action).mapError stop, k), t) := by
  rw [runOn_quietly, h.run_eq]
  cases t.result action <;> rfl

end ViewCompanion.Session
