import TimeRollup.Error
import TimeRollup.Expr.Parser
import TimeRollup.Rule.Template
import TimeRollup.SelectItem.Basic

/-!
# Rollup rules

A rule turns an entry of a finer view's select list into the entry of the next coarser view.  The new
entry keeps its alias and reads the finer view's column of that name: counts and sums are summed up,
extremes and first and last values are taken again, summaries are combined, and plain columns and
constants are carried over.  Custom rules say how to roll up calls of functions that are not among these.
-/

namespace TimeRollup

open TimeRollup.Text

/-- Functions with a rule of their own, apart from those that make summaries. -/
def fixedFunctions : List String :=
  ["count", "sum", "min", "max", "first", "last", "rollup"]

structure CustomRule where
  /-- The function whose calls are rolled up. -/
  function : String
  /-- The coarser expression, with places for the alias and the arguments. -/
  template : String
  deriving DecidableEq, Repr

namespace CustomRule

/-- A rule for a function whose name may be given in any case. -/
def ofNames (function template : String) : CustomRule :=
  ⟨lowercase function, template⟩

/-- The coarser expression of a call with the given alias, if no place stays open. -/
def coarser? (rule : CustomRule) (aliasName : String) (args : List Expr) : Option Expr :=
  let text := Template.fill rule.template.toList aliasName.toList (args.map Expr.render)
  if Template.isOpen text then none else some (Expr.parse text)

end CustomRule

/-- What becomes of an entry in the next coarser view. -/
inductive Rewrite where
  /-- An aggregate of the finer view's column. -/
  | rolled (item : SelectItem)
  /-- A column or constant that is carried over. -/
  | passThrough (item : SelectItem)
  /-- No rule applies; the entry stays as it is. -/
  | forwarded (item : SelectItem)
  deriving DecidableEq, Repr

namespace Rewrite

def item : Rewrite → SelectItem
  | .rolled item | .passThrough item | .forwarded item => item

def isForwarded : Rewrite → Bool
  | .forwarded _ => true
  | _ => false

end Rewrite

/-- The custom rules, in the order in which they were added. -/
structure RuleTable where
  custom : List CustomRule
  deriving DecidableEq, Repr, Inhabited

namespace RuleTable

def empty : RuleTable :=
  ⟨[]⟩

/-- Adds a rule for a function that has none. -/
def add (table : RuleTable) (rule : CustomRule) : Except RollupError RuleTable :=
  let function := lowercase rule.function
  if !Sql.isIdentifier function.toList then
    .error (.configuration
      ("custom rule function '" ++ rule.function ++ "' is not an identifier"))
  else if !occursIn Template.aliasPlace rule.template.toList then
    .error (.configuration
      ("custom rule for '" ++ function ++ "' must reference \x7balias\x7d"))
  else if fixedFunctions.contains function || summaryFunctions.contains function then
    .error (.ruleConflict ("'" ++ function ++ "' is already handled by a fixed rule"))
  else if table.custom.any (·.function == function) then
    .error (.ruleConflict ("'" ++ function ++ "' has more than one custom rule"))
  else .ok ⟨table.custom ++ [⟨function, rule.template⟩]⟩

/-- Tries to add a rule to a table that is kept: the answer, and the table after it. -/
def offer (table : RuleTable) (rule : CustomRule) : Except RollupError Unit × RuleTable :=
  match table.add rule with
  | .ok added => (.ok (), added)
  | .error error => (.error error, table)

/-- The table after several rules were offered, whatever the answers. -/
def offerAll (table : RuleTable) (rules : List CustomRule) : RuleTable :=
  rules.foldl (fun table rule => (table.offer rule).2) table

@[simp]
theorem offerAll_cons (table : RuleTable) (rule : CustomRule) (rules : List CustomRule) :
    table.offerAll (rule :: rules) = (table.offer rule).2.offerAll rules :=
  rfl

/-- The table of the rules, if each can be added after those before it. -/
def ofRules (rules : List CustomRule) : Except RollupError RuleTable :=
  rules.foldlM add empty

def find? (table : RuleTable) (function : String) : Option CustomRule :=
  table.custom.find? (·.function == function)

def rewrite (table : RuleTable) (item : SelectItem) : Rewrite :=
  let column := Expr.column item.aliasName
  let rolled (expr : Expr) := Rewrite.rolled ⟨expr, item.aliasName⟩
  match item.shape with
  | .count | .sum => rolled (.call "sum" [column])
  | .min => rolled (.call "min" [column])
  | .max => rolled (.call "max" [column])
  | .first order => rolled (.call "first" [column, order])
  | .last order => rolled (.call "last" [column, order])
  | .opaqueSummary _ | .rollup => rolled (.call "rollup" [column])
  | .column _ => .passThrough ⟨column, item.aliasName⟩
  | .constant => .passThrough item
  | .call function =>
    match item.expr, table.find? function with
    | .call _ args, some rule =>
      match rule.coarser? item.aliasName args with
      | some expr => rolled expr
      | none => .forwarded item
    | _, _ => .forwarded item
  | .unrecognized => .forwarded item

def rewriteAll (table : RuleTable) (items : List SelectItem) : List Rewrite :=
  items.map table.rewrite

/-- An entry keeps its alias. -/
theorem aliasName_rewrite (table : RuleTable) (item : SelectItem) :
    (table.rewrite item).item.aliasName = item.aliasName := by
  unfold rewrite
  cases item.shape with
  | call function =>
    simp only
    split
    · split <;> rfl
    · rfl
  | _ => rfl

end RuleTable

end TimeRollup
