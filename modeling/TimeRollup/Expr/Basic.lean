/-!
# Select expressions

An expression of a select list is kept as a tree only as far as rolling up looks into it: function
calls and their arguments, column references, constants, and the star of `count(*)`.  All other
text, such as operators and casts, is carried along as written.
-/

namespace TimeRollup

inductive Expr where
  | star
  /-- A column reference, perhaps qualified or quoted. -/
  | column (name : String)
  /-- A number or a text in single quotes, as written. -/
  | literal (text : String)
  | call (function : String) (args : List Expr)
  | raw (text : String)
  deriving Inhabited, Repr

namespace Expr

mutual

private def decideEq : (left right : Expr) → Decidable (left = right)
  | .star, .star => isTrue rfl
  | .column left, .column right => decidable_of_iff (left = right) (by simp)
  | .literal left, .literal right => decidable_of_iff (left = right) (by simp)
  | .raw left, .raw right => decidable_of_iff (left = right) (by simp)
  | .call f left, .call g right =>
    have := decideArgsEq left right
    decidable_of_iff (f = g ∧ left = right) (by simp)
  | .star, .column _ | .star, .literal _ | .star, .call _ _ | .star, .raw _
  | .column _, .star | .column _, .literal _ | .column _, .call _ _ | .column _, .raw _
  | .literal _, .star | .literal _, .column _ | .literal _, .call _ _ | .literal _, .raw _
  | .call _ _, .star | .call _ _, .column _ | .call _ _, .literal _ | .call _ _, .raw _
  | .raw _, .star | .raw _, .column _ | .raw _, .literal _ | .raw _, .call _ _ =>
    isFalse nofun

private def decideArgsEq : (left right : List Expr) → Decidable (left = right)
  | [], [] => isTrue rfl
  | [], _ :: _ | _ :: _, [] => isFalse nofun
  | left :: lefts, right :: rights =>
    have := decideEq left right
    have := decideArgsEq lefts rights
    decidable_of_iff (left = right ∧ lefts = rights) (by simp)

end

instance : DecidableEq Expr :=
  decideEq

mutual

/-- The expression as SQL text. -/
def render : Expr → List Char
  | .star => ['*']
  | .column name => name.toList
  | .literal text => text.toList
  | .call function args => function.toList ++ '(' :: renderArgs args ++ [')']
  | .raw text => text.toList

def renderArgs : List Expr → List Char
  | [] => []
  | arg :: args => arg.render ++ renderMoreArgs args

def renderMoreArgs : List Expr → List Char
  | [] => []
  | arg :: args => ',' :: ' ' :: arg.render ++ renderMoreArgs args

end

def text (expr : Expr) : String :=
  String.ofList expr.render

theorem renderMoreArgs_eq_flatMap (args : List Expr) :
    renderMoreArgs args = args.flatMap fun arg => ',' :: ' ' :: arg.render := by
  induction args with
  | nil => rfl
  | cons arg args ih => simp [renderMoreArgs, ih]

/-- Arguments are written with a comma and a space between them. -/
theorem renderArgs_eq_intercalate (args : List Expr) :
    renderArgs args = [',', ' '].intercalate (args.map render) := by
  cases args with
  | nil => rfl
  | cons arg args =>
    simp only [renderArgs, renderMoreArgs_eq_flatMap, List.map_cons]
    induction args generalizing arg with
    | nil => simp [List.intercalate]
    | cons next args ih =>
      simp only [List.flatMap_cons, List.map_cons, List.intercalate_cons_cons, ← ih next]
      simp

@[simp]
theorem toList_text (expr : Expr) : expr.text.toList = expr.render := by
  simp [text]

end Expr

end TimeRollup
