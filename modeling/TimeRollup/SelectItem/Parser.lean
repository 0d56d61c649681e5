import TimeRollup.Error
import TimeRollup.Expr.Parser
import TimeRollup.SelectItem.Basic

/-!
# Reading entries of a select list

The alias is what follows the word `as` outside of all parentheses and single quotes, up to the end of
the text.  The first place where the rest of the text can be read that way is taken.  Without an alias
only a column can be selected; it goes by the last component of its name.
-/

namespace TimeRollup

open TimeRollup.Text TimeRollup.Sql TimeRollup.Expr

/-- How deep in parentheses, and whether in single quotes, a text ends. -/
structure Nesting where
  /-- A count without bounds.  One of 32 bits is the same up to 2147483647 parentheses of a kind. -/
  depth : Int
  quoted : Bool
  deriving DecidableEq, Repr

namespace Nesting

def outermost : Nesting :=
  ⟨0, false⟩

def step (nesting : Nesting) (c : Char) : Nesting :=
  if c == '\'' then { nesting with quoted := !nesting.quoted }
  else if nesting.quoted then nesting
  else if c == '(' then { nesting with depth := nesting.depth + 1 }
  else if c == ')' then { nesting with depth := nesting.depth - 1 }
  else nesting

/-- As many parentheses were opened as closed, and every quote was closed. -/
def isClosed (nesting : Nesting) : Bool :=
  nesting.depth == 0 && !nesting.quoted

end Nesting

namespace SelectItem

/-- The text ends outside of all parentheses and quotes. -/
def isTopLevel (s : List Char) : Bool :=
  (s.foldl Nesting.step .outermost).isClosed

/-- The alias of a text that is the word `as`, with space around it, and an alias. -/
def aliasSuffix? (s : List Char) : Option (List Char) :=
  match s.takeWhile isSpace, skipSpace s with
  | _ :: _, a :: b :: rest =>
    if eqIgnoringCase [a, b] ['a', 's'] then
      match rest.takeWhile isSpace, takeComponent? (skipSpace rest) with
      | _ :: _, some (name, after) => if after.all isSpace then some name else none
      | _, _ => none
    else none
  | _, _ => none

/-- Splits a text that follows the reversed text `before`. -/
def splitAliasAfter (nesting : Nesting) (before : List Char) :
    List Char → Option (List Char × List Char)
  | [] => none
  | c :: rest =>
    let aliasName := if isBlank c && nesting.isClosed then aliasSuffix? (c :: rest) else none
    match aliasName with
    | some aliasName => some (trimEnd before.reverse, aliasName)
    | none => splitAliasAfter (nesting.step c) (c :: before) rest

/-- The expression and the alias of a text that names an alias. -/
def splitAlias? (s : List Char) : Option (List Char × List Char) :=
  splitAliasAfter .outermost [] s

/-- What follows the last dot, without double quotes around it. -/
def unqualified (name : List Char) : List Char :=
  let reversed := (name.reverse.takeWhile (· != '.')).dropWhile (· == '"')
  reversed.reverse.dropWhile (· == '"')

def parse (text : List Char) : Except RollupError SelectItem :=
  let s := trim text
  if s.isEmpty then .error (.parse "empty select item")
  else
    match splitAlias? s with
    | some (expression, aliasName) => .ok ⟨Expr.parse expression, String.ofList aliasName⟩
    | none =>
      match Expr.parse s with
      | .column name => .ok ⟨.column name, String.ofList (unqualified name.toList)⟩
      | _ => .error (.parse ("select item '" ++ String.ofList s ++ "' needs an alias"))

/-- The entry that a text stands for. -/
def ofText (s : String) : Except RollupError SelectItem :=
  parse s.toList

end SelectItem

end TimeRollup
