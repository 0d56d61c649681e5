import TimeRollup.Config.Basic
import TimeRollup.Toml.Document

/-!
# Reading configurations

A configuration is a table of records.  A record is a table, of which entries that it does not know are
passed over, or an array of its fields in order.  Fields with a standard value may be missing.
-/

namespace TimeRollup

open TimeRollup.Toml

namespace ConfigReader

/-- What a record is read from. -/
inductive Fields where
  | named (entries : List (String × Value))
  | ordered (values : List Value)

/-- A date has no entry that a record knows. -/
def Fields.ofValue? : Value → Option Fields
  | .table entries => some (.named entries)
  | .date => some (.named [])
  | .array values => some (.ordered values)
  | _ => none

def Fields.get? (fields : Fields) (index : Nat) (name : String) : Option Value :=
  match fields with
  | .named entries => entries.lookup name
  | .ordered values => values[index]?

variable {α : Type}

def required (fields : Fields) (index : Nat) (name : String) (read : Value → Option α) :
    Option α := do
  read (← fields.get? index name)

def withStandard (fields : Fields) (index : Nat) (name : String) (read : Value → Option α)
    (standard : α) : Option α :=
  match fields.get? index name with
  | some value => read value
  | none => some standard

/-- A field without a value may only be missing from a table. -/
def optional (fields : Fields) (index : Nat) (name : String) (read : Value → Option α) :
    Option (Option α) :=
  match fields, fields.get? index name with
  | _, some value => (read value).map some
  | .named _, none => some none
  | .ordered _, none => none

def listOf (read : Value → Option α) (value : Value) : Option (List α) := do
  (← value.array?).mapM read

def readInterval (value : Value) : Option Interval := do
  (Interval.ofText (← value.text?)).toOption

def readOffset (value : Value) : Option (Option Interval) :=
  (readInterval value).map some

def readPolicy (value : Value) : Option RefreshPolicy := do
  let fields ← Fields.ofValue? value
  return {
    startOffset := ← withStandard fields 0 "start_offset" readOffset none
    endOffset := ← withStandard fields 1 "end_offset" readOffset none
    scheduleInterval := ← required fields 2 "schedule_interval" readInterval }

def readRule (value : Value) : Option CustomRule := do
  let fields ← Fields.ofValue? value
  return {
    function := ← required fields 0 "function" Value.text?
    template := ← required fields 1 "template" Value.text? }

/-- Reads a table of policies, in the order of its keys. -/
def readPolicies : Value → Option (List (String × RefreshPolicy))
  | .table entries =>
    (entries.mergeSort fun left right => left.1 ≤ right.1).mapM fun (name, value) => do
      return (name, ← readPolicy value)
  | _ => none

def readAggregate (value : Value) : Option AggregateSettings := do
  let fields ← Fields.ofValue? value
  let texts := listOf Value.text?
  return {
    name := ← required fields 0 "name" Value.text?
    relation := ← required fields 1 "relation" Value.text?
    timeColumn := ← withStandard fields 2 "time_column" Value.text? "created_at"
    select := ← required fields 3 "select" texts
    groupBy := ← withStandard fields 4 "group_by" texts []
    filter := ← optional fields 5 "filter" Value.text?
    granularities := ← optional fields 6 "granularities" texts
    refreshPolicy := ← withStandard fields 7 "refresh_policy" readPolicies [] }

def readCompiler (value : Value) : Option CompilerSettings := do
  let fields ← Fields.ofValue? value
  let standard := CompilerSettings.standard
  return {
    granularities :=
      ← withStandard fields 0 "granularities" (listOf Value.text?) standard.granularities
    withData := ← withStandard fields 1 "with_data" Value.boolean? standard.withData
    strict := ← withStandard fields 2 "strict" Value.boolean? standard.strict
    materializedOnly :=
      ← withStandard fields 3 "materialized_only" Value.boolean? standard.materializedOnly
    rules := ← withStandard fields 4 "rules" (listOf readRule) standard.rules }

def readLogging (value : Value) : Option LoggingSettings := do
  let fields ← Fields.ofValue? value
  let standard := LoggingSettings.standard
  return {
    level := ← withStandard fields 0 "level" Value.text? standard.level
    format := ← withStandard fields 1 "format" Value.text? standard.format }

def readConfig (value : Value) : Option Config := do
  let fields ← Fields.ofValue? value
  return {
    compiler := ← withStandard fields 0 "compiler" readCompiler .standard
    logging := ← withStandard fields 1 "logging" readLogging .standard
    aggregates := ← withStandard fields 2 "aggregate" (listOf readAggregate) [] }

end ConfigReader

/-- The configuration that a document holds. -/
def Config.ofToml? (text : String) : Option Config := do
  ConfigReader.readConfig (← Toml.parse? text)

end TimeRollup
