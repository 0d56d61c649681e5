import TimeRollup.Text.Substring

/-!
# Templates of custom rules

A template is the text of an expression with places to fill: one for the alias, and numbered ones for the
arguments of the call that is rolled up.  The places are filled one kind after the other, the alias
first and then the arguments from the first to the last.
-/

namespace TimeRollup.Template

open TimeRollup.Text

/-- The place of the alias. -/
def aliasPlace : List Char :=
  "\x7balias\x7d".toList

/-- The place of the argument at `index`, counted from zero. -/
def argumentPlace (index : Nat) : List Char :=
  '\x7b' :: Nat.toDigits 10 index ++ ['\x7d']

/-- Fills the places of the arguments from `index` on. -/
def fillArguments (index : Nat) (text : List Char) : List (List Char) → List Char
  | [] => text
  | argument :: arguments =>
    fillArguments (index + 1) (replaceAll (argumentPlace index) argument text) arguments

def fill (template aliasName : List Char) (arguments : List (List Char)) : List Char :=
  fillArguments 0 (replaceAll aliasPlace aliasName template) arguments

/-- A text in which a place may be left to fill. -/
def isOpen (text : List Char) : Bool :=
  text.contains '\x7b'

end TimeRollup.Template
