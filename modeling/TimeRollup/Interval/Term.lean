import TimeRollup.Text.Blank
import TimeRollup.Text.CodePoints
import TimeRollup.Text.Integer
import TimeRollup.Text.Lowercase

/-!
# Terms of an interval

A term is a count, written in decimal digits, and a unit in the singular or plural.  An interval is a
list of terms; `readTerms?` reads such a list from its words, and `scanTerms` picks out of any text
the terms that it contains.
-/

namespace TimeRollup.Interval

open TimeRollup.Text

inductive TimeUnit where
  | microsecond
  | millisecond
  | second
  | minute
  | hour
  | day
  | week
  | month
  | year
  deriving DecidableEq, Repr, Inhabited

/-- Whole seconds of a unit, a month being 30 days and a year 365. -/
def TimeUnit.secs : TimeUnit → Int
  | .microsecond => 0
  | .millisecond => 0
  | .second => 1
  | .minute => 60
  | .hour => 3600
  | .day => 24 * 3600
  | .week => 7 * 24 * 3600
  | .month => 30 * 24 * 3600
  | .year => 365 * 24 * 3600

/-- The spellings of the units.  One that begins with another comes before it. -/
def unitNames : List (List Char × TimeUnit) :=
  [("microseconds".toList, .microsecond), ("microsecond".toList, .microsecond),
   ("milliseconds".toList, .millisecond), ("millisecond".toList, .millisecond),
   ("seconds".toList, .second), ("second".toList, .second),
   ("secs".toList, .second), ("sec".toList, .second),
   ("minutes".toList, .minute), ("minute".toList, .minute),
   ("mins".toList, .minute), ("min".toList, .minute),
   ("hours".toList, .hour), ("hour".toList, .hour),
   ("days".toList, .day), ("day".toList, .day),
   ("weeks".toList, .week), ("week".toList, .week),
   ("months".toList, .month), ("month".toList, .month),
   ("years".toList, .year), ("year".toList, .year)]

/-- The unit that a word is a spelling of. -/
def unitOfName? (word : List Char) : Option TimeUnit :=
  (unitNames.find? fun entry => entry.1 == word).map Prod.snd

structure Term where
  digits : List Char
  unit : TimeUnit
  deriving DecidableEq, Repr

namespace Term

/-- The count.  One that cannot be read as a 64-bit number stands for the largest such number. -/
def count (term : Term) : Int :=
  match readInt64 term.digits with
  | .ok count => count
  | .error _ => int64Max

/-- The length in whole seconds, at most the largest 64-bit number. -/
def secs (term : Term) : Int :=
  clampInt64 (term.count * term.unit.secs)

end Term

/-- Reads the words of an interval: each term is one word, or a word of digits and a unit. -/
def readTerms? : List (List Char) → Option (List Term)
  | [] => some []
  | word :: words =>
    match word.takeWhile isDecimalDigit, word.dropWhile isDecimalDigit with
    | [], _ => none
    | digits, [] =>
      match words with
      | [] => none
      | name :: words => do
        let unit ← unitOfName? name
        return ⟨digits, unit⟩ :: (← readTerms? words)
    | digits, name => do
      let unit ← unitOfName? name
      return ⟨digits, unit⟩ :: (← readTerms? words)

/-- The term that a text begins with, and the text behind it. -/
def takeTerm? (s : List Char) : Option (Term × List Char) :=
  match s.takeWhile isDecimalDigit with
  | [] => none
  | digits =>
    let rest := trimStart (s.dropWhile isDecimalDigit)
    (unitNames.find? fun entry => entry.1.isPrefixOf rest).map fun entry =>
      (⟨digits, entry.2⟩, rest.drop entry.1.length)

/-- Passes over `skip` characters, then picks out the terms. -/
def scanTermsAfter (skip : Nat) : List Char → List Term
  | [] => []
  | c :: rest =>
    match skip with
    | skip + 1 => scanTermsAfter skip rest
    | 0 =>
      match takeTerm? (c :: rest) with
      | some (term, after) => term :: scanTermsAfter (rest.length - after.length) rest
      | none => scanTermsAfter 0 rest

/-- The terms in a text, from left to right. -/
def scanTerms (s : List Char) : List Term :=
  scanTermsAfter 0 s

theorem scanTermsAfter_eq_drop (skip : Nat) (s : List Char) :
    scanTermsAfter skip s = scanTerms (s.drop skip) := by
  induction s generalizing skip with
  | nil => simp [scanTermsAfter, scanTerms]
  | cons c rest ih =>
    cases skip with
    | zero => rfl
    | succ skip => simpa [scanTermsAfter] using ih skip

end TimeRollup.Interval
