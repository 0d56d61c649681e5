import TimeRollup.Calendar.Rfc3339
import TimeRollup.CommandLine.Arguments
import TimeRollup.CommandLine.Report
import TimeRollup.Json.Report
import TimeRollup.Overview
import TimeRollup.Registry
import TimeRollup.Text.Blank

/-!
# Answers to commands

What a command prints for a configuration.  Of two faults the one that is met first is reported: in the
registry, then in the output format, then in the arguments, and last in what they ask of the registry.
-/

namespace TimeRollup.CommandLine

open TimeRollup.Calendar
open TimeRollup.Text

inductive OutputFormat where
  | text
  | json
  deriving DecidableEq, Repr

def OutputFormat.ofText : String → Except Failure OutputFormat
  | "text" => .ok .text
  | "json" => .ok .json
  | name => .error (.format name)

def jsonText (value : Json.Value) : String :=
  value.pretty ++ "\n"

def statementsText (format : OutputFormat) (statements : List Statement) : String :=
  match format with
  | .text => unlines (statements.map (·.sql ++ ";"))
  | .json => jsonText (.ofTexts (statements.map Statement.sql))

def orRollup {α : Type} (result : Except RollupError α) : Except Failure α :=
  result.mapError .rollup

def readTimestamp (text : String) : Except Failure Instant :=
  match Instant.ofRfc3339? text with
  | some instant => .ok instant
  | none => .error (.timestamp text)

def readWindow (now : Instant) (start stop last : Option String) :
    Except Failure RefreshWindow :=
  match last with
  | some text => do
    let seconds ← (readDuration text).mapError .duration
    match RefreshWindow.last? now seconds with
    | some window => return window
    | none => .error .outsideCalendar
  | none => do
    let start ← start.mapM readTimestamp
    let stop ← stop.mapM readTimestamp
    orRollup (RefreshWindow.ofBounds start stop)

/-- Without names there is no restriction. -/
def readOnly (names : List String) : Except Failure (Option (List Granularity)) :=
  if names.isEmpty then .ok none
  else do return some (← orRollup (names.mapM Granularity.ofText))

/-- The chain, and all of its views or the one of a bucket width. -/
def describedViews (registry : Registry) (name : String) (granularity : Option String) :
    Except RollupError (Chain × List View) := do
  let chain ← registry.chain name
  match granularity with
  | none => return (chain, chain.views)
  | some text => return (chain, [← registry.view name (← Granularity.ofText text)])

def chainText (format : OutputFormat) (chain : Chain) (views : List View) : String :=
  match format with
  | .text => unlines (chain.overview views)
  | .json => jsonText (chain.json views)

def selectText (format : OutputFormat) (select : Sql.Select) : String :=
  match format with
  | .text => unlines [select.sql ++ ";"]
  | .json => jsonText (.text select.sql)

def adHocSelect (registry : Registry) (name source interval : String) :
    Except RollupError Sql.Select := do
  let source ← Granularity.ofText source
  let interval ← Interval.ofText interval
  (registry.adHocRollup name source interval).result

def Command.answer (registry : Registry) (format : OutputFormat) (now : Instant) :
    Command → Except Failure String
  | .create _ => .ok (statementsText format registry.createStatements)
  | .drop policiesOnly =>
    .ok (statementsText format
      (if policiesOnly then registry.removePolicyStatements else registry.dropStatements))
  | .describe name granularity => do
    let (chain, views) ← orRollup (describedViews registry name granularity)
    return chainText format chain views
  | .refresh name start stop last granularities => do
    let window ← readWindow now start stop last
    let only ← readOnly granularities
    return statementsText format (← orRollup (registry.refreshStatements name window only))
  | .rollup name source interval => do
    return selectText format (← orRollup (adHocSelect registry name source interval))

/-- The configuration with the settings that the command itself makes. -/
def Command.adjust (command : Command) (config : Config) : Config :=
  match command with
  | .create true => { config with compiler := { config.compiler with withData := true } }
  | _ => config

def answer (config : Config) (format : String) (now : Instant) (command : Command) :
    Except Failure String := do
  let registry ← (command.adjust config).registry.result.mapError .build
  command.answer registry (← OutputFormat.ofText format) now

end TimeRollup.CommandLine
