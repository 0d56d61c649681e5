import TimeRollup.Chain.Builder
import TimeRollup.Statement
import TimeRollup.StatementLog

/-!
# Registries

A registry holds the chains of definitions of different names, in the order in which they were
registered, and makes the statements for all of them.
-/

namespace TimeRollup

structure Registry where
  builder : ChainBuilder
  options : ViewOptions
  chains : List Chain
  deriving DecidableEq, Repr, Inhabited

namespace Registry

def empty (builder : ChainBuilder) (options : ViewOptions) : Registry :=
  ⟨builder, options, []⟩

/-- Builds the chain of a definition whose name is not taken. -/
def buildChain (registry : Registry) (definition : AggregateDefinition)
    (granularities : List Granularity) : Outcome RollupError Chain :=
  if registry.chains.any (·.name == definition.name) then
    .fail (.duplicateDefinition definition.name)
  else registry.builder.build definition granularities

/-- The registry with the chain of the definition, and that chain. -/
def register (registry : Registry) (definition : AggregateDefinition)
    (granularities : List Granularity) : Outcome RollupError (Chain × Registry) := do
  let chain ← registry.buildChain definition granularities
  return (chain, { registry with chains := registry.chains ++ [chain] })

def chain (registry : Registry) (name : String) : Except RollupError Chain :=
  match registry.chains.find? (·.name == name) with
  | some chain => .ok chain
  | none => .error (.definitionNotFound name)

def view (registry : Registry) (name : String) (granularity : Granularity) :
    Except RollupError View := do
  let chain ← registry.chain name
  match chain.view? granularity with
  | some view => .ok view
  | none => .error (.granularityNotInChain name granularity.name)

def refreshPolicy (registry : Registry) (name : String) (granularity : Granularity) :
    Except RollupError (Option RefreshPolicy) := do
  return (← registry.view name granularity).refreshPolicy

/-- The policies of all views of a chain, finest first. -/
def refreshPolicies (registry : Registry) (name : String) :
    Except RollupError (List (Granularity × Option RefreshPolicy)) := do
  return (← registry.chain name).views.map fun view => (view.granularity, view.refreshPolicy)

def warnings (registry : Registry) : List RewriteWarning :=
  registry.chains.flatMap Chain.warnings

def adHocRollup (registry : Registry) (name : String) (source : Granularity)
    (interval : Interval) : Outcome RollupError Sql.Select := do
  let view ← .ofExcept (registry.view name source)
  registry.builder.adHocRollup view interval

def createStatements (registry : Registry) : List Statement :=
  registry.chains.flatMap (·.createStatements registry.options)

def dropStatements (registry : Registry) : List Statement :=
  dropAllStatements registry.chains

def removePolicyStatements (registry : Registry) : List Statement :=
  registry.chains.reverse.flatMap Chain.removePolicyStatements

/-- Every bucket width in `only` must have a view. -/
def refreshStatements (registry : Registry) (name : String) (window : RefreshWindow)
    (only : Option (List Granularity)) : Except RollupError (List Statement) := do
  let chain ← registry.chain name
  match (only.getD []).find? fun granularity => (chain.view? granularity).isNone with
  | some granularity => .error (.granularityNotInChain name granularity.name)
  | none => .ok (chain.refreshStatements window only)

/-! ## Running statements -/

def runStatements (statements : List Statement) (log : StatementLog) :
    Except RollupError Nat × StatementLog :=
  log.run (statements.map Statement.sql)

def createAll (registry : Registry) : StatementLog → Except RollupError Nat × StatementLog :=
  runStatements registry.createStatements

def dropAll (registry : Registry) : StatementLog → Except RollupError Nat × StatementLog :=
  runStatements registry.dropStatements

def removePolicies (registry : Registry) :
    StatementLog → Except RollupError Nat × StatementLog :=
  runStatements registry.removePolicyStatements

/-- Refreshes the views of a chain.  Nothing is run if the statements cannot be made. -/
def refresh (registry : Registry) (name : String) (window : RefreshWindow)
    (only : Option (List Granularity)) (log : StatementLog) :
    Except RollupError Nat × StatementLog :=
  match registry.refreshStatements name window only with
  | .ok statements => runStatements statements log
  | .error error => (.error error, log)

end Registry

end TimeRollup
