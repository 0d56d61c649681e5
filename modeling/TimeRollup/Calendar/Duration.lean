import TimeRollup.Text.Blank
import TimeRollup.Text.Integer
import TimeRollup.Text.Lowercase

/-!
# Durations

A duration is written as a number of hours, days, weeks, months or years and read as a number of seconds.
A month has 30 days and a year 365, and what is written in months or years is counted in days first.
-/

namespace TimeRollup.Calendar

open TimeRollup.Text

inductive DurationFault where
  | number (fault : IntegerFault)
  /-- The text ends in no unit. -/
  | noUnit (text : String)
  | outOfRange (text : String)
  deriving DecidableEq, Repr

def DurationFault.message : DurationFault → String
  | .number fault => fault.message
  | .noUnit text => "Invalid duration format: " ++ text ++ ". Use: 12h, 7d, 4w, 3m, 1y"
  | .outOfRange text => "Duration out of range: " ++ text

/-- Durations are counted in milliseconds of 64 bits, so this many seconds are the longest. -/
def longestDuration : Int := int64Max / 1000

namespace Duration

/-- A number of seconds that is not longer than the longest duration. -/
def ofSeconds? (seconds : Int) : Option Int :=
  if seconds.natAbs ≤ longestDuration then some seconds else none

def ofHours? (count : Int) : Option Int :=
  ofSeconds? (count * 3600)

def ofDays? (count : Int) : Option Int :=
  ofSeconds? (count * (24 * 3600))

def ofWeeks? (count : Int) : Option Int :=
  ofSeconds? (count * (7 * 24 * 3600))

def ofMonths? (count : Int) : Option Int :=
  (mulInt64? count 30).bind ofDays?

def ofYears? (count : Int) : Option Int :=
  (mulInt64? count 365).bind ofDays?

/-- What so many of the unit that a letter stands for are. -/
def ofUnit? : Char → Option (Int → Option Int)
  | 'h' => some ofHours?
  | 'd' => some ofDays?
  | 'w' => some ofWeeks?
  | 'm' => some ofMonths?
  | 'y' => some ofYears?
  | _ => none

end Duration

/-- Reads a duration such as `7d`, in any case. -/
def readDuration (s : String) : Except DurationFault Int :=
  let text := lower (trim s.toList)
  match text.getLast?.bind Duration.ofUnit? with
  | none => .error (.noUnit (String.ofList text))
  | some ofCount? =>
    match readInt64 text.dropLast with
    | .error fault => .error (.number fault)
    | .ok count =>
      match ofCount? count with
      | some seconds => .ok seconds
      | none => .error (.outOfRange (String.ofList text))

end TimeRollup.Calendar
