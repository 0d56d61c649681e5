import TimeRollup.Error
import TimeRollup.Text.Blank
import TimeRollup.Text.Lowercase

/-!
# Bucket widths

The seven widths of time buckets, ordered from the finest to the coarsest.  Months and years are
calendar units, whose length in seconds is only approximate.
-/

namespace TimeRollup

open TimeRollup.Text

inductive Granularity where
  | second
  | minute
  | hour
  | day
  | week
  | month
  | year
  deriving DecidableEq, Repr, Inhabited

namespace Granularity

/-- All widths, finest first. -/
def all : List Granularity :=
  [.second, .minute, .hour, .day, .week, .month, .year]

def rank : Granularity → Nat
  | .second => 0
  | .minute => 1
  | .hour => 2
  | .day => 3
  | .week => 4
  | .month => 5
  | .year => 6

instance : LT Granularity where
  lt left right := left.rank < right.rank

instance (left right : Granularity) : Decidable (left < right) :=
  inferInstanceAs (Decidable (left.rank < right.rank))

/-- The name in table names and settings. -/
def name : Granularity → String
  | .second => "second"
  | .minute => "minute"
  | .hour => "hour"
  | .day => "day"
  | .week => "week"
  | .month => "month"
  | .year => "year"

/-- The width as the text of an interval. -/
def interval : Granularity → String
  | .second => "1 second"
  | .minute => "1 minute"
  | .hour => "1 hour"
  | .day => "1 day"
  | .week => "1 week"
  | .month => "1 month"
  | .year => "1 year"

/-- The width in seconds, a month being 30 days and a year 365. -/
def approxSecs : Granularity → Int
  | .second => 1
  | .minute => 60
  | .hour => 3600
  | .day => 24 * 3600
  | .week => 7 * 24 * 3600
  | .month => 30 * 24 * 3600
  | .year => 365 * 24 * 3600

/-- The start of the bucket that a time falls into, as SQL. -/
def bucketExpr (granularity : Granularity) (timeColumn : String) : String :=
  "time_bucket('" ++ granularity.interval ++ "', " ++ timeColumn ++ ")"

def ofUnitName? : String → Option Granularity
  | "second" | "seconds" | "s" => some .second
  | "minute" | "minutes" | "min" => some .minute
  | "hour" | "hours" | "h" => some .hour
  | "day" | "days" | "d" => some .day
  | "week" | "weeks" | "w" => some .week
  | "month" | "months" | "mon" => some .month
  | "year" | "years" | "y" => some .year
  | _ => none

/-- Reads a name such as `hour`, in any case, or a width such as `1 hour`. -/
def ofText (s : String) : Except RollupError Granularity :=
  let normal := lower (trim s.toList)
  let unit :=
    match normal with
    | '1' :: ' ' :: rest => rest
    | normal => normal
  match ofUnitName? (String.ofList (trim unit)) with
  | some granularity => .ok granularity
  | none => .error (.invalidGranularity s)

theorem rank_injective {left right : Granularity} (h : left.rank = right.rank) :
    left = right := by
  cases left <;> cases right <;> simp_all [rank]

theorem lt_irrefl (granularity : Granularity) : ¬ granularity < granularity :=
  Nat.lt_irrefl granularity.rank

theorem lt_trans {fine middle coarse : Granularity} (h : fine < middle) (h' : middle < coarse) :
    fine < coarse :=
  Nat.lt_trans h h'

/-- A finer bucket is a shorter one. -/
theorem approxSecs_lt_iff {left right : Granularity} :
    left.approxSecs < right.approxSecs ↔ left < right := by
  cases left <;> cases right <;> decide

@[simp]
theorem ofUnitName?_name (granularity : Granularity) :
    ofUnitName? granularity.name = some granularity := by
  cases granularity <;> rfl

end Granularity

end TimeRollup
