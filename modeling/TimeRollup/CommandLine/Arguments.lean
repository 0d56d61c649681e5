/-!
# Reading the command line

The arguments name a command, behind which stand the arguments of the command itself.  Options may stand
before or behind positional arguments.  The value of an option is the next argument, or it is attached:
`--format=json`, `-f=json` and `-fjson` mean the same.  An argument that starts with a dash is never the
value of the option before it.
-/

namespace TimeRollup.CommandLine

inductive OptionKind where
  | help
  | version
  | flag
  | value
  /-- An option whose value must not be empty. -/
  | path
  /-- An option that may be given more than once. -/
  | values
  deriving DecidableEq, Repr

def OptionKind.takesValue : OptionKind → Bool
  | .value | .path | .values => true
  | .help | .version | .flag => false

structure OptionSpec where
  name : String
  letter : Option Char
  kind : OptionKind
  deriving DecidableEq, Repr

inductive Verb where
  | create
  | drop
  | describe
  | refresh
  | rollup
  | sample
  deriving DecidableEq, Repr

def Verb.ofText? : String → Option Verb
  | "create" => some .create
  | "drop" => some .drop
  | "show" => some .describe
  | "refresh" => some .refresh
  | "rollup" => some .rollup
  | "config" => some .sample
  | _ => none

/-- The arguments that may stand at one level of the command line. -/
structure Grammar where
  options : List OptionSpec
  positionals : Nat
  hasCommands : Bool
  deriving DecidableEq, Repr

/-- Options that may stand on both levels. -/
def sharedOptions : List OptionSpec :=
  [⟨"config", some 'c', .path⟩, ⟨"format", some 'f', .value⟩, ⟨"help", some 'h', .help⟩]

def Grammar.top : Grammar :=
  ⟨⟨"version", some 'V', .version⟩ :: sharedOptions, 0, true⟩

def Verb.grammar : Verb → Grammar
  | .create => ⟨⟨"with-data", none, .flag⟩ :: sharedOptions, 0, false⟩
  | .drop => ⟨⟨"policies", none, .flag⟩ :: sharedOptions, 0, false⟩
  | .describe => ⟨⟨"granularity", some 'g', .value⟩ :: sharedOptions, 1, false⟩
  | .refresh =>
    ⟨[⟨"start", none, .value⟩, ⟨"end", none, .value⟩, ⟨"last", some 'l', .value⟩,
      ⟨"granularity", some 'g', .values⟩] ++ sharedOptions, 1, false⟩
  | .rollup =>
    ⟨[⟨"from", none, .value⟩, ⟨"interval", some 'i', .value⟩] ++ sharedOptions, 1, false⟩
  | .sample => ⟨⟨"output", some 'o', .path⟩ :: sharedOptions, 0, false⟩

/-- What has been read at one level. -/
structure Matches where
  /-- Options by name, with their values. -/
  options : List (String × String)
  positionals : List String
  deriving DecidableEq, Repr

namespace Matches

def empty : Matches :=
  ⟨[], []⟩

def has (found : Matches) (name : String) : Bool :=
  found.options.any (·.1 == name)

def value? (found : Matches) (name : String) : Option String :=
  found.options.lookup name

def values (found : Matches) (name : String) : List String :=
  (found.options.filter (·.1 == name)).map Prod.snd

def addOption? (found : Matches) (spec : OptionSpec) (value : String) : Option Matches :=
  if spec.kind ≠ .values ∧ found.has spec.name then none
  else if spec.kind = .path ∧ value.isEmpty then none
  else some { found with options := found.options ++ [(spec.name, value)] }

def addPositional? (found : Matches) (limit : Nat) (text : String) : Option Matches :=
  if found.positionals.length < limit then
    some { found with positionals := found.positionals ++ [text] }
  else none

end Matches

/-- An argument that is an option or ends the options. -/
def isDashed (argument : String) : Bool :=
  match argument.toList with
  | '-' :: _ :: _ => true
  | _ => false

/-- An option by name, and the value behind an equals sign. -/
def Grammar.named? (grammar : Grammar) (text : List Char) : Option (OptionSpec × Option String) := do
  let name := String.ofList (text.takeWhile (· ≠ '='))
  let spec ← grammar.options.find? (·.name == name)
  match text.dropWhile (· ≠ '=') with
  | [] => return (spec, none)
  | _ :: value => if spec.kind.takesValue then return (spec, some (String.ofList value)) else none

/-- An option by letter.  One that takes no value acts before the letters behind it are read. -/
def Grammar.lettered? (grammar : Grammar) (letter : Char) (text : List Char) :
    Option (OptionSpec × Option String) := do
  let spec ← grammar.options.find? (·.letter == some letter)
  if spec.kind.takesValue then
    match text with
    | [] => return (spec, none)
    | '=' :: value => return (spec, some (String.ofList value))
    | value => return (spec, some (String.ofList value))
  else return (spec, none)

def Grammar.option? (grammar : Grammar) (argument : String) :
    Option (OptionSpec × Option String) :=
  match argument.toList with
  | '-' :: '-' :: text => grammar.named? text
  | '-' :: letter :: text => grammar.lettered? letter text
  | _ => none

/-- What the arguments of one level come to. -/
inductive Scan where
  | help
  | version
  | misuse
  | finished (found : Matches)
  /-- A command, and the arguments behind it. -/
  | command (found : Matches) (name : String) (rest : List String)
  deriving DecidableEq, Repr

/-- Reads the arguments of one level.  Behind `--` all arguments are positional. -/
def Grammar.scan (grammar : Grammar) (found : Matches) (optionsEnded : Bool) :
    List String → Scan
  | [] => .finished found
  | argument :: rest =>
    if !optionsEnded && argument == "--" then grammar.scan found true rest
    else if optionsEnded || !isDashed argument then
      if grammar.hasCommands && !optionsEnded &&
          (argument == "help" || (Verb.ofText? argument).isSome) then
        .command found argument rest
      else
        match found.addPositional? grammar.positionals argument with
        | some found => grammar.scan found optionsEnded rest
        | none => .misuse
    else
      match grammar.option? argument with
      | none => .misuse
      | some (spec, attached) =>
        match spec.kind, attached, rest with
        | .help, _, _ => .help
        | .version, _, _ => .version
        | .flag, _, rest =>
          match found.addOption? spec "" with
          | some found => grammar.scan found optionsEnded rest
          | none => .misuse
        | _, some value, rest =>
          match found.addOption? spec value with
          | some found => grammar.scan found optionsEnded rest
          | none => .misuse
        | _, none, value :: rest =>
          if isDashed value then .misuse
          else
            match found.addOption? spec value with
            | some found => grammar.scan found optionsEnded rest
            | none => .misuse
        | _, none, [] => .misuse

/-! ## Commands -/

inductive Command where
  | create (withData : Bool)
  | drop (policiesOnly : Bool)
  | describe (name : String) (granularity : Option String)
  | refresh (name : String) (start stop last : Option String) (granularities : List String)
  | rollup (name source interval : String)
  deriving DecidableEq, Repr

inductive Invocation where
  /-- Hands out the sample configuration. -/
  | sample (output : Option String)
  | compile (config : Option String) (format : String) (command : Command)
  deriving DecidableEq, Repr

inductive Reading where
  | help
  | version
  | misuse
  | run (invocation : Invocation)
  deriving DecidableEq, Repr

/-- The command of a verb, if all that it requires is there. -/
def Command.ofMatches? (verb : Verb) (found : Matches) : Option Command :=
  match verb, found.positionals with
  | .create, [] => some (.create (found.has "with-data"))
  | .drop, [] => some (.drop (found.has "policies"))
  | .describe, [name] => some (.describe name (found.value? "granularity"))
  | .refresh, [name] =>
    if found.has "last" ∧ (found.has "start" ∨ found.has "end") then none
    else
      some (.refresh name (found.value? "start") (found.value? "end") (found.value? "last")
        (found.values "granularity"))
  | .rollup, [name] => do
    return .rollup name (← found.value? "from") (← found.value? "interval")
  | _, _ => none

/-- Options behind the verb win over those before it. -/
def Invocation.ofMatches? (verb : Verb) (outer inner : Matches) : Option Invocation :=
  match verb with
  | .sample => some (.sample (inner.value? "output"))
  | verb => do
    return .compile (inner.value? "config" <|> outer.value? "config")
      ((inner.value? "format" <|> outer.value? "format").getD "text")
      (← Command.ofMatches? verb inner)

/-- Help is there for the program and for each of its commands. -/
def readHelp (arguments : List String) : Reading :=
  match arguments with
  | [] => .help
  | [name] => if name == "help" || (Verb.ofText? name).isSome then .help else .misuse
  | _ => .misuse

def readCommand (outer : Matches) (verb : Verb) (arguments : List String) : Reading :=
  match verb.grammar.scan .empty false arguments with
  | .help => .help
  | .version => .version
  | .finished inner =>
    match Invocation.ofMatches? verb outer inner with
    | some invocation => .run invocation
    | none => .misuse
  | _ => .misuse

def readArguments (arguments : List String) : Reading :=
  match Grammar.top.scan .empty false arguments with
  | .help => .help
  | .version => .version
  | .command outer name rest =>
    match Verb.ofText? name with
    | some verb => readCommand outer verb rest
    | none => readHelp rest
  | _ => .misuse

end TimeRollup.CommandLine
