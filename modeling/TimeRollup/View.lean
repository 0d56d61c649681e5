import TimeRollup.Definition.Basic
import TimeRollup.Sql.Select

/-!
# Views of a chain

A view holds the groups of one bucket width.  The finest view of a chain reads raw rows, every other one
the view that is one step finer.
-/

namespace TimeRollup

inductive ViewSource where
  /-- The raw relation. -/
  | relation (name : String)
  /-- The view of the next finer bucket width. -/
  | view (granularity : Granularity) (tableName : String)
  deriving DecidableEq, Repr

/-- What a selection from the source names behind `FROM`. -/
def ViewSource.name : ViewSource → String
  | .relation name => name
  | .view _ tableName => tableName

structure View where
  granularity : Granularity
  source : ViewSource
  tableName : String
  timeColumn : String
  selectItems : List SelectItem
  groupKeys : List String
  filter : Option String
  /-- The selection that fills the view, as it was written out when the view was derived. -/
  selectSql : String
  refreshPolicy : Option RefreshPolicy
  deriving DecidableEq, Repr

namespace View

def aliases (view : View) : List String :=
  view.selectItems.map SelectItem.aliasName

def bucketExpr (view : View) : String :=
  view.granularity.bucketExpr view.timeColumn

/-- What rows are grouped by: the bucket, then the group keys. -/
def groupBy (view : View) : List String :=
  view.bucketExpr :: view.groupKeys

def isFinest (view : View) : Bool :=
  match view.source with
  | .relation _ => true
  | .view _ _ => false

/-- The selection that the fields of the view describe. -/
def select (view : View) : Sql.Select where
  bucket := view.granularity.interval
  timeColumn := view.timeColumn
  items := view.selectItems
  source := view.source.name
  filter := view.filter
  groupKeys := view.groupKeys

theorem bucketExpr_select (view : View) : view.select.bucketExpr = view.bucketExpr :=
  rfl

end View

end TimeRollup
