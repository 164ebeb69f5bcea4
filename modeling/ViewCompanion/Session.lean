import ViewCompanion.Failure

namespace ViewCompanion

/-- What was written to standard output and to standard error. -/
structure Console where
  out : String
  err : String
  deriving DecidableEq, Repr

namespace Console

def empty : Console := ⟨"", ""⟩

def say (line : String) (c : Console) : Console := { c with out := c.out ++ line ++ "\n" }

def warn (line : String) (c : Console) : Console := { c with err := c.err ++ line ++ "\n" }

end Console

/-- A run that may stop with an `ε`. -/
abbrev Session (ε : Type) (m : Type → Type) := ExceptT ε (StateT Console m)

namespace Session

variable {m : Type → Type} [Monad m] {ε δ α : Type}

def say (line : String) : Session ε m Unit := modify (Console.say line)

def warn (line : String) : Session ε m Unit := modify (Console.warn line)

/-- A part of a run that says nothing; `stop` tells what its failure means to the run. -/
def quietly (stop : δ → ε) (action : ExceptT δ m α) : Session ε m α := do
  match ← (liftM (m := m) action.run : Session ε m (Except δ α)) with
  | .ok a => pure a
  | .error e => throw (stop e)

end Session

end ViewCompanion
