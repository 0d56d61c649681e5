import TimeRollup.Chain.Basic
import TimeRollup.Outcome
import TimeRollup.Rule.Table

/-!
# Building chains

The finest view takes over the select list of the definition.  Each coarser view rewrites the select list
of the view before it by the rollup rules.  Only columns of the finer view are left to group by, so every
group key has to be among them.  An entry that no rule rolls up is read unchanged, with a warning; a
strict builder fails there instead.
-/

namespace TimeRollup

structure ChainBuilder where
  rules : RuleTable
  strict : Bool
  deriving DecidableEq, Repr, Inhabited

namespace ChainBuilder

/-- Every group key is a column of the view. -/
def checkGroupKeys (groupKeys : List String) (view : View) : Except RollupError Unit :=
  match groupKeys.find? fun column => !view.aliases.contains column with
  | some column => .error (.missingGroupColumn column view.tableName)
  | none => .ok ()

def forwardedWarning (view : String) (item : SelectItem) : RewriteWarning :=
  ⟨view, item.aliasName, item.expr.text⟩

/-- Rewrites a select list for a view of the given name. -/
def rewriteItems (builder : ChainBuilder) (view : String) :
    List SelectItem → Outcome RollupError (List SelectItem × List RewriteWarning)
  | [] => return ([], [])
  | item :: items => do
    match builder.rules.rewrite item with
    | .forwarded item =>
      let warning := forwardedWarning view item
      .notice [.forwarded warning]
      if builder.strict then .fail warning.toError
      else
        let (items, warnings) ← builder.rewriteItems view items
        return (item :: items, warning :: warnings)
    | .rolled item | .passThrough item =>
      let (items, warnings) ← builder.rewriteItems view items
      return (item :: items, warnings)

/-- The notice that a view is refreshed more often than the view it reads. -/
def scheduleNotices (finer view : View) : List Notice :=
  match finer.refreshPolicy, view.refreshPolicy with
  | some finerPolicy, some policy =>
    if policy.scheduleInterval.approxSecs < finerPolicy.scheduleInterval.approxSecs then
      [.refreshesFaster view.tableName policy.scheduleInterval.text finer.tableName
        finerPolicy.scheduleInterval.text]
    else []
  | _, _ => []

/-- The selection that fills a view of the definition. -/
def selection (definition : AggregateDefinition) (granularity : Granularity) (source : ViewSource)
    (items : List SelectItem) (filter : Option String) : Sql.Select where
  bucket := granularity.interval
  timeColumn := definition.timeColumn
  items := items
  source := source.name
  filter := filter
  groupKeys := definition.groupBy

def finestView (definition : AggregateDefinition) (granularity : Granularity) : View where
  granularity := granularity
  source := .relation definition.relation
  tableName := definition.tableName granularity
  timeColumn := definition.timeColumn
  selectItems := definition.selectItems
  groupKeys := definition.groupBy
  filter := definition.filter
  selectSql :=
    (selection definition granularity (.relation definition.relation) definition.selectItems
      definition.filter).sql
  refreshPolicy := definition.refreshPlan.get? granularity

def viewOver (definition : AggregateDefinition) (finer : View) (granularity : Granularity)
    (items : List SelectItem) : View where
  granularity := granularity
  source := .view finer.granularity finer.tableName
  tableName := definition.tableName granularity
  timeColumn := definition.timeColumn
  selectItems := items
  groupKeys := definition.groupBy
  filter := none
  selectSql :=
    (selection definition granularity (.view finer.granularity finer.tableName) items none).sql
  refreshPolicy := definition.refreshPlan.get? granularity

/-- The view that reads `finer`, and its warnings. -/
def coarserView (builder : ChainBuilder) (definition : AggregateDefinition) (finer : View)
    (granularity : Granularity) : Outcome RollupError (View × List RewriteWarning) := do
  .ofExcept (checkGroupKeys definition.groupBy finer)
  let (items, warnings) ←
    builder.rewriteItems (definition.tableName granularity) finer.selectItems
  let view := viewOver definition finer granularity items
  .notice (scheduleNotices finer view)
  return (view, warnings)

/-- The views that follow `finer`, each of which reads the one before it. -/
def coarserViews (builder : ChainBuilder) (definition : AggregateDefinition) (finer : View) :
    List Granularity → Outcome RollupError (List View × List RewriteWarning)
  | [] => return ([], [])
  | granularity :: granularities => do
    let (view, warnings) ← builder.coarserView definition finer granularity
    let (views, more) ← builder.coarserViews definition view granularities
    return (view :: views, warnings ++ more)

/-- The policies for which the chain has no view. -/
def planNotices (definition : AggregateDefinition) (sequence : GranularitySequence) :
    List Notice :=
  (definition.refreshPlan.granularities.filter fun granularity =>
    !sequence.contains granularity).map (.policyOutsideChain definition.name)

def buildOver (builder : ChainBuilder) (definition : AggregateDefinition)
    (sequence : GranularitySequence) : Outcome RollupError Chain := do
  .notice (planNotices definition sequence)
  let finest := finestView definition sequence.finest
  let (coarser, warnings) ← builder.coarserViews definition finest sequence.toList.tail
  return ⟨definition, sequence, finest, coarser, warnings⟩

def build (builder : ChainBuilder) (definition : AggregateDefinition)
    (granularities : List Granularity) : Outcome RollupError Chain := do
  let sequence ← .ofExcept (GranularitySequence.ofList granularities)
  builder.buildOver definition sequence

/-- The selection that rolls a view up to buckets of any width that is not finer than its own. -/
def adHocRollup (builder : ChainBuilder) (view : View) (interval : Interval) :
    Outcome RollupError Sql.Select := do
  if interval.approxSecs < view.granularity.approxSecs then
    .fail (.configuration ("interval '" ++ interval.text ++ "' is finer than the " ++
      view.granularity.name ++ " buckets of " ++ view.tableName))
  else
    let (items, _) ← builder.rewriteItems view.tableName view.selectItems
    .ofExcept (checkGroupKeys view.groupKeys view)
    return {
      bucket := interval.text
      timeColumn := view.timeColumn
      items := items
      source := view.tableName
      filter := none
      groupKeys := view.groupKeys }

end ChainBuilder

end TimeRollup
