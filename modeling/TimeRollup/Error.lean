/-!
# What can go wrong

Each error is a function of the definitions and settings alone, so trying again never helps.  An
expression that no rule rolls up is only a warning, unless the builder is strict.
-/

namespace TimeRollup

inductive RollupError where
  /-- A definition or setting contradicts itself. -/
  | configuration (text : String)
  /-- A group key is not among the columns of the view that would be rolled up. -/
  | missingGroupColumn (column view : String)
  | nonMonotonicGranularity (previous next : String)
  | invalidGranularity (text : String)
  | invalidInterval (text : String)
  | parse (text : String)
  /-- A custom rule for a function that has a rule already. -/
  | ruleConflict (text : String)
  /-- No rule rolls the expression up. -/
  | rewriteAmbiguity (view aliasName expression : String)
  | duplicateDefinition (name : String)
  | definitionNotFound (name : String)
  | granularityNotInChain (name granularity : String)
  /-- A statement was rejected when it was run. -/
  | executor (text : String)
  | render (text : String)
  deriving DecidableEq, Repr, Inhabited

namespace RollupError

def message : RollupError → String
  | .configuration text => "Configuration error: " ++ text
  | .missingGroupColumn column view =>
    "Configuration error: group-by column '" ++ column ++ "' is not selected by " ++ view
  | .nonMonotonicGranularity previous next =>
    "Configuration error: granularity '" ++ next ++ "' does not follow '" ++ previous ++
      "' in increasing order"
  | .invalidGranularity text => "Invalid granularity: " ++ text
  | .invalidInterval text => "Invalid interval: " ++ text
  | .parse text => "Parse error: " ++ text
  | .ruleConflict text => "Rule conflict: " ++ text
  | .rewriteAmbiguity view aliasName expression =>
    "No rollup rule for '" ++ expression ++ "' (alias '" ++ aliasName ++ "') in " ++ view
  | .duplicateDefinition name => "Aggregate already registered: " ++ name
  | .definitionNotFound name => "Aggregate not found: " ++ name
  | .granularityNotInChain name granularity =>
    "Aggregate '" ++ name ++ "' has no view at granularity '" ++ granularity ++ "'"
  | .executor text => "Executor error: " ++ text
  | .render text => "Render error: " ++ text

/-- The definition or the settings are at fault, not the request made of them. -/
def isConfiguration : RollupError → Bool
  | .configuration _ | .missingGroupColumn _ _ | .nonMonotonicGranularity _ _
  | .invalidInterval _ | .ruleConflict _ => true
  | _ => false

/-- A text could not be written out. -/
def formatting : RollupError :=
  .render "an error occurred when formatting an argument"

end RollupError

/-- An expression that a coarser view reads unchanged because no rule rolls it up.  The values of that
column are probably wrong. -/
structure RewriteWarning where
  /-- The table of the view that reads the expression. -/
  view : String
  aliasName : String
  expression : String
  deriving DecidableEq, Repr, Inhabited

namespace RewriteWarning

def message (warning : RewriteWarning) : String :=
  warning.view ++ ": '" ++ warning.expression ++ "' (alias '" ++ warning.aliasName ++
    "') forwarded without rewrite"

/-- The error that the warning is to a strict builder. -/
def toError (warning : RewriteWarning) : RollupError :=
  .rewriteAmbiguity warning.view warning.aliasName warning.expression

end RewriteWarning

end TimeRollup
