import TimeRollup.Definition.Basic
import TimeRollup.SelectItem.Parser

/-!
# Drafts of aggregate definitions

A draft is what someone has written down so far.  Building it reads the select list and checks the
names; of several faults the one that comes first in the draft is reported.
-/

namespace TimeRollup

open TimeRollup.Text

/-- An entry of a select list as it was written down. -/
inductive DraftItem where
  | sql (text : String)
  | pair (expression aliasName : String)
  | parsed (item : SelectItem)
  deriving DecidableEq, Repr

def DraftItem.read : DraftItem → Except RollupError SelectItem
  | .sql text => SelectItem.ofText text
  | .pair expression aliasName => .ok ⟨Expr.ofText expression, trimmed aliasName⟩
  | .parsed item => .ok item

structure Draft where
  name : String
  relation : String
  timeColumn : String
  select : List DraftItem
  groupBy : List String
  filter : Option String
  refreshPlan : RefreshPlan
  deriving DecidableEq, Repr

namespace Draft

/-- A draft that selects nothing yet. -/
def start (name relation timeColumn : String) : Draft :=
  ⟨name, relation, timeColumn, [], [], none, .empty⟩

def checkNames (draft : Draft) : Except RollupError Unit :=
  if !Sql.isIdentifier draft.name.toList then
    .error (.configuration ("aggregate name '" ++ draft.name ++ "' is not an identifier"))
  else if isBlankText draft.relation then
    .error (.configuration ("aggregate '" ++ draft.name ++ "' has no source relation"))
  else if isBlankText draft.timeColumn then
    .error (.configuration ("aggregate '" ++ draft.name ++ "' has no time column"))
  else if !Sql.isIdentifier draft.timeColumn.toList then
    .error (.configuration ("time column '" ++ draft.timeColumn ++ "' is not an identifier"))
  else .ok ()

/-- Checks an alias that comes after those in `seen`. -/
def checkAlias (timeColumn : String) (seen : List String) (item : SelectItem) :
    Except RollupError Unit :=
  if item.aliasName.isEmpty then
    .error (.configuration ("select item '" ++ item.expr.text ++ "' has an empty alias"))
  else if !Sql.isAlias item.aliasName.toList then
    .error (.configuration
      ("alias '" ++ item.aliasName ++ "' of '" ++ item.expr.text ++ "' is not an identifier"))
  else if item.aliasName = timeColumn then
    .error (.configuration
      ("alias '" ++ item.aliasName ++ "' collides with the time bucket column"))
  else if seen.contains item.aliasName then
    .error (.configuration ("alias '" ++ item.aliasName ++ "' is selected more than once"))
  else .ok ()

/-- Checks the aliases of a select list that goes on after those in `seen`. -/
def checkAliases (timeColumn : String) (seen : List String) :
    List SelectItem → Except RollupError Unit
  | [] => .ok ()
  | item :: items => do
    checkAlias timeColumn seen item
    checkAliases timeColumn (item.aliasName :: seen) items

def checkGroupBy (draft : Draft) : Except RollupError Unit :=
  if draft.groupBy.any isBlankText then
    .error (.configuration ("aggregate '" ++ draft.name ++ "' has an empty group-by column"))
  else .ok ()

def build (draft : Draft) : Except RollupError AggregateDefinition := do
  draft.checkNames
  let items ← draft.select.mapM DraftItem.read
  if items.isEmpty then
    .error (.configuration ("aggregate '" ++ draft.name ++ "' selects nothing"))
  checkAliases draft.timeColumn [] items
  draft.checkGroupBy
  return {
    name := draft.name
    relation := trimmed draft.relation
    timeColumn := draft.timeColumn
    selectItems := items
    groupBy := draft.groupBy.map trimmed
    filter := (draft.filter.map trimmed).filter fun condition => !condition.isEmpty
    refreshPlan := draft.refreshPlan }

end Draft

end TimeRollup
