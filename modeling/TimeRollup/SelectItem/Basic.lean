import TimeRollup.Expr.Shape

/-!
# Entries of a select list

An entry is an expression and the alias that names its output column.  The alias stays the same in
every view of a chain.
-/

namespace TimeRollup

structure SelectItem where
  expr : Expr
  aliasName : String
  deriving DecidableEq, Inhabited, Repr

namespace SelectItem

def shape (item : SelectItem) : Shape :=
  item.expr.shape

/-- The entry as it stands in a select list.  A column under its own name needs no alias. -/
def sql (item : SelectItem) : String :=
  if item.expr.text = item.aliasName then item.aliasName
  else item.expr.text ++ " as " ++ item.aliasName

theorem sql_of_text_eq {item : SelectItem} (h : item.expr.text = item.aliasName) :
    item.sql = item.aliasName := by
  simp [sql, h]

theorem sql_of_text_ne {item : SelectItem} (h : item.expr.text ≠ item.aliasName) :
    item.sql = item.expr.text ++ " as " ++ item.aliasName := by
  simp [sql, h]

end SelectItem

end TimeRollup
