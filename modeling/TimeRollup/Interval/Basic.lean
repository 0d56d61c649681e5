import TimeRollup.Granularity.Basic
import TimeRollup.Interval.Term

/-!
# Interval literals

An interval is kept in its normal form: words with single spaces between them, in lower case.  Only
decimal digits, unit names and these spaces occur in it, so that it can stand between single quotes.
-/

namespace TimeRollup

open TimeRollup.Text

namespace Interval

/-- The text is a list of at least one term. -/
def isTermList (s : List Char) : Bool :=
  match readTerms? (words s) with
  | some (_ :: _) => true
  | _ => false

def normalForm (s : List Char) : List Char :=
  lower (joinWords (words s))

end Interval

structure Interval where
  text : String
  wellFormed : Interval.isTermList text.toList = true
  deriving DecidableEq, Repr

namespace Interval

def ofText (s : String) : Except RollupError Interval :=
  if h : isTermList (normalForm s.toList) = true then
    .ok ⟨String.ofList (normalForm s.toList), by rwa [String.toList_ofList]⟩
  else .error (.invalidInterval s)

/-- The width of a bucket. -/
def ofGranularity (granularity : Granularity) : Interval :=
  ⟨granularity.interval, by cases granularity <;> decide +kernel⟩

/-- The length in seconds, a month being 30 days and a year 365, at most the largest 64-bit number. -/
def approxSecs (interval : Interval) : Int :=
  (scanTerms interval.text.toList).foldl (fun total term => clampInt64 (total + term.secs)) 0

theorem text_of_ofText {s : String} {interval : Interval} (h : ofText s = .ok interval) :
    interval.text = String.ofList (normalForm s.toList) := by
  unfold ofText at h
  split at h
  · simp only [Except.ok.injEq] at h
    rw [← h]
  · simp at h

theorem approxSecs_ofGranularity (granularity : Granularity) :
    (ofGranularity granularity).approxSecs = granularity.approxSecs := by
  cases granularity <;> decide +kernel

end Interval

end TimeRollup
