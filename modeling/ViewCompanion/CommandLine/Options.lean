import ViewCompanion.Storage.Path

namespace ViewCompanion.CommandLine

/-- Where declarations come from. -/
inductive Input
  | sources (folder : String)
  | snapshot (file : String)
  deriving DecidableEq, Repr

inductive Command
  | generate (input : Input) (output : String)
  | inspect (input : Input) (json : Bool)
  | snapshot (folder : String) (output? : Option String)
  deriving DecidableEq, Repr

inductive Shell
  | bash
  | elvish
  | fish
  | powershell
  | zsh
  deriving DecidableEq, Repr

def Shell.ofName? : String → Option Shell
  | "bash" => some bash
  | "elvish" => some elvish
  | "fish" => some fish
  | "powershell" => some powershell
  | "zsh" => some zsh
  | _ => none

/-- A place where options may stand: before a command or after it. -/
inductive Level
  | top
  | generate
  | inspect
  | snapshot
  deriving DecidableEq, Repr

inductive Invocation
  | help (level : Level)
  | version
  | completions (shell : Shell)
  | run (config? : Option String) (command : Command)
  deriving DecidableEq, Repr

namespace Level

def name : Level → String
  | top => ""
  | generate => "generate"
  | inspect => "inspect"
  | snapshot => "snapshot"

def commands : List Level := [generate, inspect, snapshot]

def ofName? (name : String) : Option Level :=
  commands.find? fun level => level.name == name

end Level

inductive Flag
  | config
  | verbose
  | completions
  | help
  | version
  | src
  | snapshot
  | out
  | json
  deriving DecidableEq, Repr

namespace Flag

def all : List Flag := [config, verbose, completions, help, version, src, snapshot, out, json]

def long : Flag → String
  | config => "config"
  | verbose => "verbose"
  | completions => "completions"
  | help => "help"
  | version => "version"
  | src => "src"
  | snapshot => "snapshot"
  | out => "out"
  | json => "json"

def short? : Flag → Option Char
  | config => some 'c'
  | verbose => some 'v'
  | help => some 'h'
  | version => some 'V'
  | out => some 'o'
  | _ => none

def takesValue : Flag → Bool
  | config => true
  | completions => true
  | src => true
  | snapshot => true
  | out => true
  | _ => false

def isAt : Level → Flag → Bool
  | _, config => true
  | _, verbose => true
  | _, help => true
  | .top, completions => true
  | .top, version => true
  | .top, _ => false
  | .generate, f => [src, snapshot, out].contains f
  | .inspect, f => [src, snapshot, json].contains f
  | .snapshot, f => [src, out].contains f

def accepts : Flag → String → Bool
  | completions, value => (Shell.ofName? value).isSome
  | _, value => !value.isEmpty

def ofLong? (level : Level) (name : String) : Option Flag :=
  all.find? fun f => f.isAt level && f.long == name

def ofShort? (level : Level) (c : Char) : Option Flag :=
  all.find? fun f => f.isAt level && f.short? == some c

end Flag

/-- Why reading stops before the end of the line. -/
inductive Stop
  | usage
  | help
  | version
  deriving DecidableEq, Repr

abbrev Given := List (Flag × String)

namespace Given

def value? (g : Given) (f : Flag) : Option String := g.lookup f

def has (g : Given) (f : Flag) : Bool := (g.value? f).isSome

/-- Adds a flag, which may be given only once. -/
def add (g : Given) (f : Flag) (value : String) : Except Stop Given :=
  match f with
  | .help => .error .help
  | .version => .error .version
  | f =>
    if g.has f || (f.takesValue && !f.accepts value) then .error .usage
    else .ok ((f, value) :: g)

end Given

def isValue (argument : String) : Bool :=
  argument == "-" || !argument.startsWith "-"

def addNext (g : Given) (f : Flag) : List String → Except Stop (Given × List String)
  | value :: rest =>
    if isValue value then (g.add f value).map fun g => (g, rest) else .error .usage
  | [] => .error .usage

/-- Flags of one character after one another; the value of a flag may follow at once. -/
def addShorts (level : Level) (g : Given) : List Char → List String →
    Except Stop (Given × List String)
  | [], rest => .ok (g, rest)
  | c :: cs, rest =>
    match Flag.ofShort? level c with
    | none => .error .usage
    | some f =>
      if f.takesValue then
        match cs with
        | [] => addNext g f rest
        | '=' :: value => (g.add f (String.ofList value)).map fun g => (g, rest)
        | value => (g.add f (String.ofList value)).map fun g => (g, rest)
      else do
        let g ← g.add f ""
        addShorts level g cs rest

def addLong (level : Level) (g : Given) (text : List Char) (rest : List String) :
    Except Stop (Given × List String) :=
  let name := text.takeWhile (· != '=')
  match Flag.ofLong? level (String.ofList name), text.drop name.length with
  | some f, '=' :: value =>
    if f.takesValue then (g.add f (String.ofList value)).map fun g => (g, rest) else .error .usage
  | some f, _ => if f.takesValue then addNext g f rest else (g.add f "").map fun g => (g, rest)
  | none, _ => .error .usage

/-- The flags at a level, and from the first argument on that is no flag. Nothing may come after
`--`. -/
def readFlags (level : Level) : Nat → Given → List String → Except Stop (Given × List String)
  | _, g, [] => .ok (g, [])
  | _, g, ["--"] => .ok (g, [])
  | 0, _, _ => .error .usage
  | n + 1, g, argument :: rest =>
    match argument.toList with
    | ['-', '-'] => .error .usage
    | '-' :: '-' :: text => do
      let (g, rest) ← addLong level g text rest
      readFlags level n g rest
    | '-' :: c :: cs => do
      let (g, rest) ← addShorts level g (c :: cs) rest
      readFlags level n g rest
    | _ => .ok (g, argument :: rest)

def defaultSources : String := "src"

/-- The input of a command; sources and a snapshot exclude each other. -/
def inputOf (g : Given) : Except Stop Input :=
  match g.value? .src, g.value? .snapshot with
  | some _, some _ => .error .usage
  | some folder, none => .ok (.sources folder)
  | none, some file => .ok (.snapshot file)
  | none, none => .ok (.sources defaultSources)

def commandOf (g : Given) : Level → Except Stop Command
  | .generate => do
    let input ← inputOf g
    match g.value? .out with
    | some output => .ok (.generate input output)
    | none => .error .usage
  | .inspect => do
    let input ← inputOf g
    .ok (.inspect input (g.has .json))
  | .snapshot => .ok (.snapshot ((g.value? .src).getD defaultSources) (g.value? .out))
  | .top => .error .usage

/-- The settings file: the flag at the last level wins, then the environment. A file from the
environment is named even where no flag needs it, so it has to have a name. -/
def configOf (environment? : Option String) (levels : List Given) : Except Stop (Option String) :=
  match environment?, levels.all fun g => g.has .config with
  | some "", false => .error .usage
  | _, _ => .ok ((levels.reverse.findSome? fun g => g.value? .config) <|> environment?)

def helpLevel : List String → Except Stop Level
  | [] => .ok .top
  | ["help"] => .ok .top
  | [name] =>
    match Level.ofName? name with
    | some level => .ok level
    | none => .error .usage
  | _ => .error .usage

def stopped (level : Level) : Stop → Option Invocation
  | .usage => none
  | .help => some (.help level)
  | .version => some .version

def finish (top : Given) (result : Except Stop Invocation) : Except Stop Invocation := do
  let invocation ← result
  match (top.value? .completions).bind Shell.ofName? with
  | some shell => .ok (.completions shell)
  | none => .ok invocation

def afterTop (environment? : Option String) (top : Given) (level : Level)
    (arguments : List String) : Except Stop Invocation := do
  match ← readFlags level arguments.length [] arguments with
  | (g, []) =>
    let command ← commandOf g level
    let config? ← configOf environment? [top, g]
    .ok (.run config? command)
  | _ => .error .usage

/-- What the arguments ask for; nothing if they make no sense. -/
def Invocation.ofArguments? (environment? : Option String) (arguments : List String) :
    Option Invocation :=
  match readFlags .top arguments.length [] arguments with
  | .error stop => stopped .top stop
  | .ok (top, []) =>
    match finish top ((configOf environment? [top]).map fun _ => .help .top) with
    | .ok invocation => some invocation
    | .error stop => stopped .top stop
  | .ok (top, name :: rest) =>
    if name = "help" then
      match helpLevel rest with
      | .ok level => some (.help level)
      | .error stop => stopped .top stop
    else match Level.ofName? name with
      | none => none
      | some level =>
        match finish top (afterTop environment? top level rest) with
        | .ok invocation => some invocation
        | .error stop => stopped level stop

end ViewCompanion.CommandLine
