import Mathlib.Algebra.Ring.Int.Defs
import Mathlib.Data.Int.ConditionallyCompleteOrder
import Mathlib.Data.List.Dedup
import Mathlib.Order.ConditionallyCompleteLattice.Basic
import TimeRollup.Chain.Basic

/-!
# What a select list computes

The standard meaning of select lists over rows of integers.  The rows of a relation are put into groups
by the bucket of their time and by their group keys, and each group that has rows gives one row: the
start of the bucket, and the value of every entry under its alias.  An expression that names a column
some row does not have has no value, and neither has the selection then.

Where buckets start, and which rows a condition on raw rows accepts, is left to the engine.
-/

namespace TimeRollup

/-- The value in each column that a row has. -/
abbrev Row := String → Option ℤ

namespace Row

/-- A raw row, which has a value in every column that is asked for. -/
def ofValues (values : String → ℤ) : Row :=
  fun column => some (values column)

/-- The row of a group, from its bucket and the values under the aliases. -/
def ofGroup (timeColumn : String) (bucket : ℤ) (values : List (String × ℤ)) : Row :=
  fun column => if column = timeColumn then some bucket else values.lookup column

end Row

def columnValues? (rows : List Row) (column : String) : Option (List ℤ) :=
  rows.mapM fun row => row column

/-- The values of a column, each with what it is ordered by. -/
def samples? (rows : List Row) (column order : String) : Option (List (ℤ × ℤ)) :=
  rows.mapM fun row => do
    let place ← row order
    let value ← row column
    return (place, value)

/-- The value at the place that is picked among the places of the samples. -/
def valueAt? (pick : List ℤ → Option ℤ) (samples : List (ℤ × ℤ)) : Option ℤ :=
  (pick (samples.map Prod.fst)).bind fun place => samples.lookup place

/-- The value of an expression for a group of rows.  A plain column has one if it is a group key. -/
def Expr.groupValue? (keys : List String) (group : List Row) : Expr → Option ℤ
  | .column name =>
    if name ∈ keys then (columnValues? group name).bind List.head? else none
  | .call "count" [.star] => some group.length
  | .call "count" [.column name] => (columnValues? group name).map fun values => ↑values.length
  | .call "sum" [.column name] => (columnValues? group name).map List.sum
  | .call "min" [.column name] => (columnValues? group name).bind List.min?
  | .call "max" [.column name] => (columnValues? group name).bind List.max?
  | .call "first" [.column name, .column order] =>
    (samples? group name order).bind (valueAt? List.min?)
  | .call "last" [.column name, .column order] =>
    (samples? group name order).bind (valueAt? List.max?)
  | _ => none

/-- What the entries of a select list amount to for a group of rows, under their aliases. -/
def selectedValues? (keys : List String) (items : List SelectItem) (group : List Row) :
    Option (List (String × ℤ)) :=
  items.mapM fun item => do
    let value ← item.expr.groupValue? keys group
    return (item.aliasName, value)

/-- How rows are put into groups. -/
structure Grouping where
  /-- The start of the bucket that a time falls into. -/
  bucket : ℤ → ℤ
  timeColumn : String
  keys : List String

namespace Grouping

/-- The bucket of a row and the values of its group keys. -/
def group? (grouping : Grouping) (row : Row) : Option (ℤ × List ℤ) := do
  let time ← row grouping.timeColumn
  let values ← grouping.keys.mapM row
  return (grouping.bucket time, values)

def rowsIn (grouping : Grouping) (rows : List Row) (group : ℤ × List ℤ) : List Row :=
  rows.filter fun row => grouping.group? row = some group

/-- The row that a select list makes of a group. -/
def rowOf? (grouping : Grouping) (items : List SelectItem) (rows : List Row)
    (group : ℤ × List ℤ) : Option Row := do
  let values ← selectedValues? grouping.keys items (grouping.rowsIn rows group)
  return .ofGroup grouping.timeColumn group.1 values

/-- One row for each group that has rows. -/
def evaluate? (grouping : Grouping) (items : List SelectItem) (rows : List Row) :
    Option (List Row) := do
  let groups ← rows.mapM grouping.group?
  groups.dedup.mapM (grouping.rowOf? items rows)

end Grouping

structure Engine where
  /-- The start of the bucket of the given width that a time falls into. -/
  bucket : Granularity → ℤ → ℤ
  /-- Whether a condition, as it is written, holds for a row. -/
  holds : String → Row → Bool

namespace Engine

def accepts (engine : Engine) (filter : Option String) (row : Row) : Bool :=
  match filter with
  | some condition => engine.holds condition row
  | none => true

/-- Buckets follow the order of times, and the buckets of each width are made up of whole buckets of the
width before it. -/
structure Nests (engine : Engine) (granularities : List Granularity) : Prop where
  monotone : ∀ granularity ∈ granularities, Monotone (engine.bucket granularity)
  nested : granularities.IsChain fun finer coarser =>
    ∀ time, engine.bucket coarser (engine.bucket finer time) = engine.bucket coarser time

end Engine

/-- The rows of a view over the rows of what it reads. -/
def View.rows? (engine : Engine) (view : View) (source : List Row) : Option (List Row) :=
  Grouping.evaluate? ⟨engine.bucket view.granularity, view.timeColumn, view.groupKeys⟩
    view.selectItems (source.filter (engine.accepts view.filter))

/-- The rows of views, the first over the given rows and each other one over those of the view
before it. -/
def tables? (engine : Engine) (source : List Row) : List View → Option (List (List Row))
  | [] => some []
  | view :: views => do
    let rows ← view.rows? engine source
    let tables ← tables? engine rows views
    return rows :: tables

def Chain.tables? (engine : Engine) (chain : Chain) (raw : List Row) :
    Option (List (List Row)) :=
  TimeRollup.tables? engine raw chain.views

/-- What the select list of a definition makes of raw rows at a bucket width, without any view in
between. -/
def AggregateDefinition.rows? (engine : Engine) (definition : AggregateDefinition)
    (raw : List Row) (granularity : Granularity) : Option (List Row) :=
  Grouping.evaluate? ⟨engine.bucket granularity, definition.timeColumn, definition.groupBy⟩
    definition.selectItems (raw.filter (engine.accepts definition.filter))

end TimeRollup
