import ViewCompanion.CommandLine.Text
import ViewCompanion.Config.Loading
import ViewCompanion.Crate.Loading
import ViewCompanion.Declaration.Codec
import ViewCompanion.Output
import ViewCompanion.Session

namespace ViewCompanion.CommandLine

open Storage Session

/-- Why a command does not end well. -/
inductive Trap
  /-- A failure, and what was tried when it came. -/
  | failed (attempt? : Option String) (failure : Failure)
  | unwritten (path : String) (trouble : Trouble)
  | incomplete (views : Nat)

def Trap.message : Trap → String
  | failed (some attempt) failure => attempt ++ ": " ++ failure.chain
  | failed none failure => failure.chain
  | unwritten path trouble => "Failed to write snapshot: " ++ path ++ ": " ++ trouble.message
  | incomplete views => toString views ++ " view(s) failed to generate"

def successLine (message : String) : String := "✓ " ++ message

def failureLine (message : String) : String := "✗ " ++ message

def warningLine (message : String) : String := "! " ++ message

def itemLines (label : String) (values : List String) : List String :=
  if values.isEmpty then [] else ["  • " ++ label ++ ": " ++ Text.commaList values]

def viewLines (v : ClassifiedView) : List String :=
  itemLines "stickers" v.stickers ++ itemLines "embeds" v.embeds
    ++ v.actionRows.flatMap (fun row =>
      itemLines ("action row " ++ toString row.index.toNat) row.members)
    ++ itemLines "ignored" v.ignored
    ++ ((ViewReport.model? v).map fun model => "  • create(" ++ model ++ ")").toList

variable {m : Type → Type} [Monad m]

abbrev CommandSession (m : Type → Type) := Session Trap m

def attempt (what : String) (action : ExceptT Failure m α) : CommandSession m α :=
  quietly (Trap.failed (some what)) action

def defaultConfig : String := "porbeagle.toml"

/-- The settings; a file that is named has to be there. -/
def settings (s : Storage m) (config? : Option String) : CommandSession m Config :=
  match config? with
  | some path => attempt ("Failed to load config file: " ++ path) (s.loadConfig path)
  | none =>
    attempt ("Failed to load config file: " ++ defaultConfig) (s.loadConfigIfAny defaultConfig)

def scan (s : Storage m) (c : Config) (folder : String) : CommandSession m CrateSource :=
  attempt ("Failed to scan sources in " ++ folder) (s.loadCrate c folder)

def loadSnapshot (s : Storage m) (path : String) : ExceptT Failure m Snapshot := do
  match Snapshot.ofJson (← s.sourceText path) with
  | .ok snapshot => pure snapshot
  | .error e => throw (.snapshot e)

def load (s : Storage m) (c : Config) : Input → CommandSession m Snapshot
  | .snapshot path => attempt ("Failed to load snapshot: " ++ path) (loadSnapshot s path)
  | .sources folder => do
    let source ← scan s c folder
    pure (.ofModules c source.modules)

def unlessMissing (result : Except MissingName α) : CommandSession m α :=
  match result with
  | .ok a => pure a
  | .error missing => throw (.failed none (.registry missing))

def tell (d : Diagnostic) : CommandSession m Unit :=
  warn (if d.isError then failureLine d.display else warningLine d.display)

def outcomeLine (report : Report) (output : String) (outcome : WriteOutcome) : String :=
  successLine (toString report.artifacts.length ++ " view(s) in " ++ output ++ " ("
    ++ toString outcome.written.length ++ " written, "
    ++ toString outcome.unchanged.length ++ " unchanged, "
    ++ toString outcome.removed.length ++ " removed)")

def generate (s : Storage m) (c : Config) (input : Input) (output : String) :
    CommandSession m Unit := do
  let snapshot ← load s c input
  let report ← unlessMissing (snapshot.generate c)
  report.diagnostics.forM tell
  let outcome ← quietly (Trap.failed none) (s.writeReport output c.extension report)
  say (outcomeLine report output outcome)
  if report.failed.isEmpty then pure () else throw (.incomplete report.failed.length)

def tellView (r : ViewReport) : CommandSession m Unit := do
  say r.declaration
  match r.outcome with
  | .ok view => (viewLines view).forM say
  | .error reason => warn (failureLine reason.message)

def inspect (s : Storage m) (c : Config) (input : Input) (json : Bool) :
    CommandSession m Unit := do
  let snapshot ← load s c input
  let reports ← unlessMissing (snapshot.inspect c)
  if json then say (Json.array (reports.map ViewReport.encode)).pretty
  else if reports.isEmpty then warn (warningLine "No views found")
  else reports.forM tellView

def snapshot (s : Storage m) (c : Config) (folder : String) (output? : Option String) :
    CommandSession m Unit := do
  let source ← scan s c folder
  let snapshot := Snapshot.ofModules c source.modules
  match output? with
  | none => say snapshot.toJson
  | some path =>
    match ← s.write path snapshot.toJson.toUTF8 with
    | .ok () =>
      say (successLine (toString snapshot.declarations.length ++ " declaration(s) from "
        ++ toString source.files.length ++ " file(s) written to " ++ path))
    | .error trouble => throw (.unwritten path trouble)

def perform (s : Storage m) (config? : Option String) (command : Command) :
    CommandSession m Unit := do
  let c ← settings s config?
  match command with
  | .generate input output => generate s c input output
  | .inspect input json => inspect s c input json
  | .snapshot folder output? => snapshot s c folder output?

structure Ending where
  code : UInt8
  console : Console
  deriving DecidableEq, Repr

def Ending.saying (line : String) : Ending := ⟨0, Console.empty.say line⟩

/-- Answers a command line; `environment?` is the settings file that the environment names. -/
def run (s : Storage m) (environment? : Option String) (arguments : List String) : m Ending := do
  match Invocation.ofArguments? environment? arguments with
  | none => pure ⟨2, Console.empty.warn (usageLine .top)⟩
  | some (.help level) => pure (.saying (helpText level))
  | some .version => pure (.saying versionText)
  | some (.completions shell) => pure (.saying (completionText shell))
  | some (.run config? command) => do
    let (result, console) ← (perform s config? command).run.run Console.empty
    match result with
    | .ok () => pure ⟨0, console⟩
    | .error trap => pure ⟨1, console.warn ("Error: " ++ trap.message)⟩

end ViewCompanion.CommandLine
