import ViewCompanion.Config.FromToml
import ViewCompanion.Failure

namespace ViewCompanion

namespace Config

def checked (c : Config) : Except Failure Config :=
  match c.fault? with
  | some fault => .error (.config fault)
  | none => .ok c

def ofFileText (path text : String) : Except Failure Config :=
  match ofTomlText? text with
  | some c => c.checked
  | none => .error (.settings path)

end Config

namespace Storage

variable {m : Type → Type} [Monad m]

def loadConfig (s : Storage m) (path : String) : ExceptT Failure m Config := do
  match ← s.readText path with
  | .ok text => Config.ofFileText path text
  | .error trouble => throw (.storage path trouble)

/-- The standard settings stand in for a file that is not there. -/
def loadConfigIfAny (s : Storage m) (path : String) : ExceptT Failure m Config := do
  if ← s.has path then s.loadConfig path else pure .standard

end Storage

end ViewCompanion
