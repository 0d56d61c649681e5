import TimeRollup.Chain.Basic

/-!
# Overviews of chains

What people read about a chain: each view with its source, group keys, refresh policy and selection, and
the warnings of the chain at the end.
-/

namespace TimeRollup

def offsetText : Option Interval → String
  | none => "NULL"
  | some interval => interval.text

def refreshText : Option RefreshPolicy → String
  | none => "manual"
  | some policy =>
    "every " ++ policy.scheduleInterval.text ++ " (start " ++ offsetText policy.startOffset ++
      ", end " ++ offsetText policy.endOffset ++ ")"

def View.overview (view : View) : List String :=
  ["", view.tableName,
   "  Source: " ++ view.source.name,
   "  Group by: " ++ ", ".intercalate view.groupBy,
   "  Refresh: " ++ refreshText view.refreshPolicy,
   "  " ++ view.selectSql]

def warningsOverview : List RewriteWarning → List String
  | [] => []
  | warnings => "" :: "Warnings:" :: warnings.map fun warning => "  " ++ warning.message

def Chain.title (chain : Chain) : String :=
  chain.name ++ " (" ++ " → ".intercalate (chain.granularities.toList.map Granularity.name) ++ ")"

/-- The lines about a chain and some of its views. -/
def Chain.overview (chain : Chain) (views : List View) : List String :=
  chain.title :: views.flatMap View.overview ++ warningsOverview chain.warnings

end TimeRollup
