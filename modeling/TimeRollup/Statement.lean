import TimeRollup.Chain.Basic
import TimeRollup.RefreshWindow

/-!
# Statements

What the database is told to do: create and drop views, add and remove refresh policies, and refresh.
A view is created after the view that it reads and dropped before it.
-/

namespace TimeRollup

/-- How views are created. -/
structure ViewOptions where
  /-- Views are filled as soon as they are created. -/
  withData : Bool
  /-- Views hold materialized rows only. -/
  materializedOnly : Bool
  deriving DecidableEq, Repr, Inhabited

inductive Statement where
  | createView (table selectSql : String) (options : ViewOptions)
  | addPolicy (table : String) (policy : RefreshPolicy)
  | dropView (table : String)
  | removePolicy (table : String)
  | refresh (table : String) (window : RefreshWindow)
  deriving DecidableEq, Repr

namespace Statement

/-- The view that the statement is about. -/
def table : Statement → String
  | .createView table _ _ | .addPolicy table _ | .dropView table | .removePolicy table
  | .refresh table _ => table

def timestampLiteral : Option Calendar.Instant → String
  | none => "NULL"
  | some instant => "'" ++ instant.secondsText ++ "'"

def intervalLiteral : Option Interval → String
  | none => "NULL"
  | some interval => "INTERVAL '" ++ interval.text ++ "'"

def optionsText (options : ViewOptions) : String :=
  if options.materializedOnly then
    "timescaledb.continuous, timescaledb.materialized_only = true"
  else "timescaledb.continuous"

def dataText (options : ViewOptions) : String :=
  if options.withData then "WITH DATA" else "WITH NO DATA"

def sql : Statement → String
  | .createView table selectSql options =>
    "CREATE MATERIALIZED VIEW IF NOT EXISTS " ++ table ++ " WITH (" ++ optionsText options ++
      ") AS " ++ selectSql ++ " " ++ dataText options
  | .addPolicy table policy =>
    "SELECT add_continuous_aggregate_policy('" ++ table ++ "', start_offset => " ++
      intervalLiteral policy.startOffset ++ ", end_offset => " ++
      intervalLiteral policy.endOffset ++ ", schedule_interval => " ++
      intervalLiteral (some policy.scheduleInterval) ++ ")"
  | .dropView table => "DROP MATERIALIZED VIEW IF EXISTS " ++ table ++ " CASCADE"
  | .removePolicy table =>
    "SELECT remove_continuous_aggregate_policy('" ++ table ++ "', if_exists => true)"
  | .refresh table window =>
    "CALL refresh_continuous_aggregate('" ++ table ++ "', " ++ timestampLiteral window.start ++
      ", " ++ timestampLiteral window.stop ++ ")"

end Statement

namespace View

def createStatement (view : View) (options : ViewOptions) : Statement :=
  .createView view.tableName view.selectSql options

def policyStatement? (view : View) : Option Statement :=
  view.refreshPolicy.map (.addPolicy view.tableName)

/-- Creates the view, and adds its policy if it has one. -/
def createStatements (view : View) (options : ViewOptions) : List Statement :=
  view.createStatement options :: view.policyStatement?.toList

end View

namespace Chain

def createStatements (chain : Chain) (options : ViewOptions) : List Statement :=
  chain.views.flatMap (·.createStatements options)

def dropStatements (chain : Chain) : List Statement :=
  chain.viewsCoarsestFirst.map fun view => .dropView view.tableName

def removePolicyStatements (chain : Chain) : List Statement :=
  (chain.viewsCoarsestFirst.filter (·.refreshPolicy.isSome)).map fun view =>
    .removePolicy view.tableName

/-- Refreshes the views of the bucket widths in `only`, or all views, finest first. -/
def refreshStatements (chain : Chain) (window : RefreshWindow)
    (only : Option (List Granularity)) : List Statement :=
  let selected (view : View) : Bool :=
    match only with
    | none => true
    | some only => only.contains view.granularity
  (chain.views.filter selected).map fun view => .refresh view.tableName window

end Chain

/-- Drops the views of several chains, the last chain first. -/
def dropAllStatements (chains : List Chain) : List Statement :=
  chains.reverse.flatMap Chain.dropStatements

end TimeRollup
