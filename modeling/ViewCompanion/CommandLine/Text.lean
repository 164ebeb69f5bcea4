import ViewCompanion.CommandLine.Options
import ViewCompanion.Text.Split

namespace ViewCompanion.CommandLine

def programName : String := "porbeagle"

def versionText : String := "porbeagle 0.1.0"

def Level.about : Level → String
  | .top => "Generate and inspect porbeagle message-view companions"
  | .generate => "Generate view companions and their per-module include manifests"
  | .inspect => "Show the classification of every view without writing anything"
  | .snapshot => "Dump the declaration snapshot of a source tree as JSON"

def Flag.about : Flag → String
  | .config => "Path to porbeagle.toml (defaults to ./porbeagle.toml when present)"
  | .verbose => "Enable debug logging (RUST_LOG takes precedence)"
  | .completions => "Generate shell completions"
  | .help => "Print help"
  | .version => "Print version"
  | .src => "Source directory of the crate to scan"
  | .snapshot => "JSON declaration snapshot to read instead of scanning sources"
  | .out => "Where to write"
  | .json => "Output as JSON (machine-readable format)"

def padded (width : Nat) (s : String) : String :=
  s ++ String.ofList (List.replicate (width - s.length) ' ')

def Flag.usage (f : Flag) : String :=
  let short := match f.short? with
    | some c => "-" ++ String.ofList [c] ++ ", "
    | none => "    "
  short ++ "--" ++ f.long ++ if f.takesValue then " <" ++ f.long.map Char.toUpper ++ ">" else ""

def usageLine (level : Level) : String :=
  match level with
  | .top => "Usage: " ++ programName ++ " [OPTIONS] [COMMAND]"
  | level => "Usage: " ++ programName ++ " " ++ level.name ++ " [OPTIONS]"

def commandLines : List String :=
  ["Commands:"] ++ Level.commands.map (fun level => "  " ++ padded 10 level.name ++ level.about)
    ++ ["  " ++ padded 10 "help" ++ "Print this message or the help of a command", ""]

def flagLines (level : Level) : List String :=
  ["Options:"] ++ (Flag.all.filter (Flag.isAt level)).map fun f =>
    "  " ++ padded 31 f.usage ++ f.about

def helpText (level : Level) : String :=
  Text.join "\n" ([level.about, "", usageLine level, ""]
    ++ (if level = .top then commandLines else []) ++ flagLines level)

/-- The words that can be completed after the name of the program. -/
def words : List String :=
  Level.commands.map Level.name ++ ["help"]
    ++ (Flag.all.filter (Flag.isAt .top)).map fun f => "--" ++ f.long

def completionText (shell : Shell) : String :=
  let all := Text.join " " words
  match shell with
  | .bash => "complete -W \"" ++ all ++ "\" " ++ programName
  | .zsh => "compctl -k \"(" ++ all ++ ")\" " ++ programName
  | .fish => "complete -c " ++ programName ++ " -f -a \"" ++ all ++ "\""
  | .elvish =>
    "set edit:completion:arg-completer[" ++ programName ++ "] = \x7b|@words| put " ++ all ++ " \x7d"
  | .powershell =>
    "Register-ArgumentCompleter -Native -CommandName " ++ programName
      ++ " -ScriptBlock \x7b -split \"" ++ all ++ "\" \x7d"

end ViewCompanion.CommandLine
