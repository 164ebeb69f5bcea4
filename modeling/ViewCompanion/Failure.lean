import ViewCompanion.Config.Basic
import ViewCompanion.Json.Decode
import ViewCompanion.Storage.Basic
import ViewCompanion.Text.Split
import ViewCompanion.View.Registry

namespace ViewCompanion

inductive Failure
  | storage (path : String) (trouble : Trouble)
  | source (path : String)
  | settings (path : String)
  | config (fault : Config.Fault)
  | snapshot (e : DecodeError)
  | registry (missing : MissingName)
  | generation (failed : List QualifiedName)
  | noOutput

namespace Failure

def sourceText : String := "not a well-formed source file"

def settingsText : String := "not a well-formed settings file"

def message : Failure → String
  | storage path trouble => "I/O error on " ++ path ++ ": " ++ trouble.message
  | source path => "failed to parse " ++ path ++ ": " ++ sourceText
  | settings path => "invalid configuration in " ++ path ++ ": " ++ settingsText
  | config fault => "invalid configuration: " ++ fault.message
  | snapshot e => "invalid declaration snapshot: " ++ e.message
  | registry missing => "type registry is incomplete: " ++ missing.message
  | generation failed =>
    "generation failed for " ++ toString failed.length ++ " declaration(s): "
      ++ Text.commaList failed
  | noOutput => "OUT_DIR is not set; call Builder::out_dir or run from a build script"

/-- What a failure comes from, if that has words of its own. -/
def cause? : Failure → Option String
  | storage _ trouble => some trouble.message
  | source _ => some sourceText
  | settings _ => some settingsText
  | snapshot e => some e.message
  | _ => none

def chain (f : Failure) : String :=
  match f.cause? with
  | some cause => f.message ++ ": " ++ cause
  | none => f.message

end Failure

end ViewCompanion
