import TimeRollup.SelectItem.Basic

/-!
# Bucketed selections

The statement that rounds the times of a source down to buckets, groups the rows by bucket and group
keys, and computes the entries of a select list for each group.
-/

namespace TimeRollup.Sql

structure Select where
  /-- The width of the buckets, as the text of an interval. -/
  bucket : String
  timeColumn : String
  items : List SelectItem
  source : String
  filter : Option String
  groupKeys : List String
  deriving DecidableEq, Repr

namespace Select

/-- The start of the bucket of a row. -/
def bucketExpr (select : Select) : String :=
  "time_bucket('" ++ select.bucket ++ "', " ++ select.timeColumn ++ ")"

/-- Each text with a comma and a space in front. -/
def afterCommas (texts : List String) : String :=
  String.join (texts.map (", " ++ ·))

def whereClause : Option String → String
  | none => ""
  | some condition => " WHERE " ++ condition

def sql (select : Select) : String :=
  "SELECT " ++ select.bucketExpr ++ " AS " ++ select.timeColumn ++
    afterCommas (select.items.map SelectItem.sql) ++
    " FROM " ++ select.source ++ whereClause select.filter ++
    " GROUP BY " ++ select.bucketExpr ++ afterCommas select.groupKeys

end Select

end TimeRollup.Sql
