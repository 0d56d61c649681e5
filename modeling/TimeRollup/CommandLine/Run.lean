import TimeRollup.CommandLine.Answer
import TimeRollup.CommandLine.Host
import TimeRollup.Config.Reader
import TimeRollup.Config.Sample

/-!
# Running the program

The configuration comes from the file that the arguments name, or from the first of the standard files
that holds one, or else it is the standard one.  Variables of the environment override its settings.
-/

namespace TimeRollup.CommandLine

open TimeRollup.Text

def usage : String :=
  unlines
    ["Usage: cascade [OPTIONS] <COMMAND>",
     "",
     "Commands:",
     "  create   Emit CREATE statements and refresh policies for every aggregate",
     "  drop     Emit DROP statements for every aggregate",
     "  show     Show the derived views of an aggregate",
     "  refresh  Emit refresh calls for an aggregate, finest first",
     "  rollup   Roll a view up to an arbitrary interval",
     "  config   Generate default config file",
     "  help     Print this message"]

def versionText : String :=
  unlines ["cascade 0.1.0"]

variable {m : Type → Type} [Monad m] [Host m]

def overrides : m Overrides := do
  return {
    withData := ← Host.getVariable "CASCADE_WITH_DATA"
    strict := ← Host.getVariable "CASCADE_STRICT"
    logLevel := ← Host.getVariable "CASCADE_LOG_LEVEL"
    logFormat := ← Host.getVariable "CASCADE_LOG_FORMAT" }

def configOfFile (path : String) (overrides : Overrides) :
    Except FileFault String → Except ConfigError Config
  | .error fault => .error (.unreadable path fault.message)
  | .ok text =>
    match Config.ofToml? text with
    | some config => .ok (config.override overrides)
    | none => .error (.malformed path)

def loadConfig (path : String) (overrides : Overrides) : m (Except ConfigError Config) := do
  return configOfFile path overrides (← Host.readText path)

/-- The directory of the user's settings. -/
def settingsDirectory? (settings home : Option String) : Option String :=
  match settings.filter Path.isAbsolute with
  | some directory => some directory
  | none => (home.filter (! ·.isEmpty)).map (Path.join · ".config")

def standardPaths : m (List String) := do
  let settings ← Host.getVariable "XDG_CONFIG_HOME"
  let home ← Host.getVariable "HOME"
  let directory := (settingsDirectory? settings home).map fun directory =>
    Path.join (Path.join directory "cascade") "config.toml"
  return directory.toList ++ ["/etc/cascade/config.toml", "./cascade.toml"]

/-- Passes over files that hold no configuration. -/
def firstConfig (overrides : Overrides) : List String → m Config
  | [] => return Config.standard.override overrides
  | path :: paths => do
    match ← loadConfig path overrides with
    | .ok config => return config
    | .error _ => firstConfig overrides paths

def findConfig (path : Option String) : m (Except Failure Config) := do
  match path with
  | some path => return (← loadConfig path (← overrides)).mapError (.load path)
  | none => return .ok (← firstConfig (← overrides) (← standardPaths))

def writeSample (output : Option String) : m (Except Failure String) := do
  match output with
  | none => return .ok sampleConfig
  | some path =>
    match ← writeText path sampleConfig with
    | .ok () => return .ok (unlines ["Config written to " ++ quoted path])
    | .error fault => return .error (.file fault)

def Invocation.run : Invocation → m (Except Failure String)
  | .sample output => writeSample output
  | .compile path format command => do
    match ← findConfig path with
    | .ok config => return answer config format (← Host.now) command
    | .error failure => return .error failure

def run (arguments : List String) : m Report := do
  match readArguments arguments with
  | .help => return .success usage
  | .version => return .success versionText
  | .misuse => return ⟨2, "", usage⟩
  | .run invocation => return .ofResult (← invocation.run)

end TimeRollup.CommandLine
