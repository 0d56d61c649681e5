import TimeRollup.Expr.Basic
import TimeRollup.Text.Blank
import TimeRollup.Text.Lowercase

/-!
# What an expression computes

Whether a column of a view can be computed from the finer view's column of the same name, and how, is
read off the outermost construct of its expression alone.
-/

namespace TimeRollup

open TimeRollup.Text

/-- Aggregates whose value is a summary that `rollup` combines with others of its kind. -/
def summaryFunctions : List String :=
  ["stats_agg", "percentile_agg", "uddsketch", "tdigest", "state_agg", "compact_state_agg",
   "heartbeat_agg", "candlestick_agg", "counter_agg", "gauge_agg", "time_weight", "hyperloglog"]

inductive Shape where
  | count
  | sum
  | min
  | max
  /-- The value that comes first by `order`. -/
  | first (order : Expr)
  /-- The value that comes last by `order`. -/
  | last (order : Expr)
  | opaqueSummary (function : String)
  /-- A combination of summaries. -/
  | rollup
  | column (name : String)
  | constant
  /-- Any other function call. -/
  | call (function : String)
  | unrecognized
  deriving DecidableEq, Inhabited, Repr

def Shape.isAggregate : Shape → Bool
  | .column _ | .constant | .unrecognized => false
  | _ => true

namespace Expr

/-- An argument that asks for distinct values only. -/
def isDistinct : Expr → Bool
  | .raw text =>
    eqIgnoringCase (text.toList.takeWhile fun c => !isBlank c && c != '(') "distinct".toList
  | _ => false

/-- Counts and sums of distinct values are no partial counts and sums, so they have no shape of their
own among the aggregates. -/
def callShape (function : String) (args : List Expr) : Shape :=
  match function, args with
  | "count", [arg] => if arg.isDistinct then .call function else .count
  | "sum", [arg] => if arg.isDistinct then .call function else .sum
  | "min", [_] => .min
  | "max", [_] => .max
  | "first", [_, order] => .first order
  | "last", [_, order] => .last order
  | "rollup", [_] => .rollup
  | function, _ =>
    if summaryFunctions.contains function then .opaqueSummary function else .call function

def shape : Expr → Shape
  | .column name => .column name
  | .literal _ => .constant
  | .star | .raw _ => .unrecognized
  | .call function args => callShape function args

def isAggregate (expr : Expr) : Bool :=
  expr.shape.isAggregate

theorem eq_of_callShape_eq_call {function shown : String} {args : List Expr}
    (h : callShape function args = .call shown) : function = shown := by
  unfold callShape at h
  split at h
  all_goals try split at h
  all_goals simp_all

end Expr

end TimeRollup
