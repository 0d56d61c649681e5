import TimeRollup.Chain.Basic
import TimeRollup.Json.Value

/-!
# Chains as JSON

A chain is reported with its views and warnings.  The fields of an object are in alphabetical order.
-/

namespace TimeRollup

open TimeRollup.Json

mutual

def Expr.json : Expr → Value
  | .star => .object [("kind", .text "star")]
  | .column name => .object [("kind", .text "column"), ("value", .text name)]
  | .literal text => .object [("kind", .text "literal"), ("value", .text text)]
  | .call function args =>
    .object [("kind", .text "call"),
      ("value", .object [("args", .list (Expr.jsonList args)), ("function", .text function)])]
  | .raw text => .object [("kind", .text "raw"), ("value", .text text)]

def Expr.jsonList : List Expr → List Value
  | [] => []
  | expr :: exprs => expr.json :: Expr.jsonList exprs

end

theorem Expr.jsonList_eq_map (exprs : List Expr) : Expr.jsonList exprs = exprs.map Expr.json := by
  induction exprs with
  | nil => rfl
  | cons expr exprs ih => simp [Expr.jsonList, ih]

def SelectItem.json (item : SelectItem) : Value :=
  .object [("alias", .text item.aliasName), ("expr", item.expr.json)]

def RefreshPolicy.json (policy : RefreshPolicy) : Value :=
  let offset := Value.ofOption fun (interval : Interval) => Value.text interval.text
  .object [("end_offset", offset policy.endOffset),
    ("schedule_interval", .text policy.scheduleInterval.text),
    ("start_offset", offset policy.startOffset)]

def ViewSource.json : ViewSource → Value
  | .relation name => .object [("kind", .text "relation"), ("name", .text name)]
  | .view granularity tableName =>
    .object [("granularity", .text granularity.name), ("kind", .text "view"),
      ("table_name", .text tableName)]

def View.json (view : View) : Value :=
  .object [("filter", .ofOption .text view.filter),
    ("granularity", .text view.granularity.name),
    ("group_keys", .ofTexts view.groupKeys),
    ("refresh_policy", .ofOption RefreshPolicy.json view.refreshPolicy),
    ("select_items", .list (view.selectItems.map SelectItem.json)),
    ("select_sql", .text view.selectSql),
    ("source", view.source.json),
    ("table_name", .text view.tableName),
    ("time_column", .text view.timeColumn)]

def RewriteWarning.json (warning : RewriteWarning) : Value :=
  .object [("alias", .text warning.aliasName), ("expression", .text warning.expression),
    ("view", .text warning.view)]

/-- The chain with some of its views. -/
def Chain.json (chain : Chain) (views : List View) : Value :=
  .object [("granularities", .ofTexts (chain.granularities.toList.map Granularity.name)),
    ("name", .text chain.name),
    ("views", .list (views.map View.json)),
    ("warnings", .list (chain.warnings.map RewriteWarning.json))]

end TimeRollup
