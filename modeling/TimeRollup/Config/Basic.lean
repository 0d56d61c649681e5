import TimeRollup.Definition.Draft
import TimeRollup.Registry
import TimeRollup.Text.Quoted

/-!
# Configurations

A configuration has settings for all aggregates and a list of aggregates.  Its registry holds their chains
in that order, and does not come about if one of them cannot be registered.
-/

namespace TimeRollup

structure CompilerSettings where
  /-- Bucket widths of the aggregates that have none of their own. -/
  granularities : List String
  withData : Bool
  strict : Bool
  materializedOnly : Bool
  rules : List CustomRule
  deriving DecidableEq, Repr

def CompilerSettings.standard : CompilerSettings where
  granularities := GranularitySequence.standard.toList.map Granularity.name
  withData := false
  strict := false
  materializedOnly := false
  rules := []

structure LoggingSettings where
  level : String
  format : String
  deriving DecidableEq, Repr

def LoggingSettings.standard : LoggingSettings where
  level := "info"
  format := "pretty"

structure AggregateSettings where
  name : String
  relation : String
  timeColumn : String
  select : List String
  groupBy : List String
  filter : Option String
  granularities : Option (List String)
  /-- Policies by names of bucket widths, in the order of these names. -/
  refreshPolicy : List (String × RefreshPolicy)
  deriving DecidableEq, Repr

namespace AggregateSettings

/-- The policies, of which a later one for the same bucket width replaces an earlier one. -/
def refreshPlan (aggregate : AggregateSettings) : Except RollupError RefreshPlan :=
  aggregate.refreshPolicy.foldlM (fun plan (name, policy) => do
    return plan.insert (← Granularity.ofText name) policy) .empty

def definition (aggregate : AggregateSettings) : Except RollupError AggregateDefinition := do
  let plan ← aggregate.refreshPlan
  Draft.build
    { name := aggregate.name
      relation := aggregate.relation
      timeColumn := aggregate.timeColumn
      select := aggregate.select.map .sql
      groupBy := aggregate.groupBy
      filter := aggregate.filter
      refreshPlan := plan }

/-- The bucket widths of the aggregate, or else those of the compiler. -/
def sequence (aggregate : AggregateSettings) (compiler : CompilerSettings) :
    Except RollupError GranularitySequence :=
  GranularitySequence.ofNames (aggregate.granularities.getD compiler.granularities)

end AggregateSettings

structure Config where
  compiler : CompilerSettings
  logging : LoggingSettings
  aggregates : List AggregateSettings
  deriving DecidableEq, Repr

inductive ConfigError where
  /-- The file cannot be read. -/
  | unreadable (path reason : String)
  /-- The file holds no configuration. -/
  | malformed (path : String)
  | aggregate (name : String) (error : RollupError)
  | rollup (error : RollupError)
  deriving DecidableEq, Repr

def ConfigError.message : ConfigError → String
  | .unreadable path reason =>
    "Failed to read config file " ++ Text.quoted path ++ ": " ++ reason
  | .malformed path => "Failed to parse config file " ++ Text.quoted path
  | .aggregate name error => "Invalid aggregate '" ++ name ++ "': " ++ error.message
  | .rollup error => error.message

/-- Settings from the environment of the program. -/
structure Overrides where
  withData : Option String
  strict : Option String
  logLevel : Option String
  logFormat : Option String
  deriving DecidableEq, Repr, Inhabited

/-- The truth value that a text names. -/
def readFlag? : String → Option Bool
  | "true" => some true
  | "false" => some false
  | _ => none

namespace Config

def standard : Config :=
  ⟨.standard, .standard, []⟩

/-- Replaces settings by those of the environment.  A text that names no truth value has no effect. -/
def override (config : Config) (overrides : Overrides) : Config :=
  { config with
    compiler := { config.compiler with
      withData := (overrides.withData.bind readFlag?).getD config.compiler.withData
      strict := (overrides.strict.bind readFlag?).getD config.compiler.strict }
    logging :=
      { level := overrides.logLevel.getD config.logging.level
        format := overrides.logFormat.getD config.logging.format } }

def builder (config : Config) : Except RollupError ChainBuilder := do
  return ⟨← RuleTable.ofRules config.compiler.rules, config.compiler.strict⟩

def options (config : Config) : ViewOptions :=
  ⟨config.compiler.withData, config.compiler.materializedOnly⟩

/-- Registers an aggregate. -/
def register (config : Config) (registry : Registry) (aggregate : AggregateSettings) :
    Outcome ConfigError Registry := do
  let sequence ← .ofExcept ((aggregate.sequence config.compiler).mapError .rollup)
  let definition ← .ofExcept (aggregate.definition.mapError .rollup)
  let (_, registry) ←
    (registry.register definition sequence.toList).mapError (.aggregate aggregate.name)
  return registry

def registerAll (config : Config) (registry : Registry) :
    List AggregateSettings → Outcome ConfigError Registry
  | [] => return registry
  | aggregate :: aggregates => do
    let registry ← config.register registry aggregate
    config.registerAll registry aggregates

/-- The registry of all aggregates. -/
def registry (config : Config) : Outcome ConfigError Registry := do
  let builder ← .ofExcept (config.builder.mapError .rollup)
  config.registerAll (.empty builder config.options) config.aggregates

end Config

end TimeRollup
