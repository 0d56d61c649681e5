import TimeRollup.RefreshPolicy
import TimeRollup.SelectItem.Basic

/-!
# Aggregate definitions

What a chain of views is derived from: the select list, group keys and row filter of its finest view,
and the refresh policies of all its views.
-/

namespace TimeRollup

structure AggregateDefinition where
  /-- The first part of the name of every view. -/
  name : String
  /-- The raw relation that the finest view reads. -/
  relation : String
  /-- The column of times, which every view rounds down to buckets. -/
  timeColumn : String
  selectItems : List SelectItem
  /-- The group keys, the bucket apart. -/
  groupBy : List String
  /-- The condition on raw rows. -/
  filter : Option String
  refreshPlan : RefreshPlan
  deriving DecidableEq, Repr, Inhabited

namespace AggregateDefinition

def aliases (definition : AggregateDefinition) : List String :=
  definition.selectItems.map SelectItem.aliasName

/-- The view of the definition at a bucket width is named after both. -/
def tableName (definition : AggregateDefinition) (granularity : Granularity) : String :=
  definition.name ++ "_per_" ++ granularity.name

end AggregateDefinition

end TimeRollup
