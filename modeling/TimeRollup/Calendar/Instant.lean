import TimeRollup.Calendar.Date

/-!
# Instants

A point in time is a number of whole seconds from the start of 1970 and nanoseconds on top.  A leap second
counts as more nanoseconds of the second before it, and is written as the second after it.
-/

namespace TimeRollup.Calendar

def nanosPerSecond : Nat := 1000000000

def secondsPerDay : Int := 86400

structure Instant where
  seconds : Int
  nanos : Nat
  deriving DecidableEq, Repr, Inhabited

namespace Instant

instance : LT Instant where
  lt left right :=
    left.seconds < right.seconds ∨ left.seconds = right.seconds ∧ left.nanos < right.nanos

instance (left right : Instant) : Decidable (left < right) :=
  inferInstanceAs (Decidable (_ ∨ _ ∧ _))

theorem lt_iff {left right : Instant} :
    left < right ↔
      left.seconds < right.seconds ∨ left.seconds = right.seconds ∧ left.nanos < right.nanos :=
  Iff.rfl

theorem lt_irrefl (instant : Instant) : ¬ instant < instant := by
  simp [lt_iff]

theorem lt_trans {first second third : Instant} (h : first < second) (h' : second < third) :
    first < third := by
  rw [lt_iff] at h h' ⊢
  omega

instance : LE Instant where
  le left right := ¬ right < left

instance (left right : Instant) : Decidable (left ≤ right) :=
  inferInstanceAs (Decidable (¬ _))

/-- The seconds from one instant to another, rounded toward zero. -/
def secondsUntil (start stop : Instant) : Int :=
  Int.tdiv ((stop.seconds - start.seconds) * nanosPerSecond + stop.nanos - start.nanos)
    nanosPerSecond

def date (instant : Instant) : Date :=
  Date.ofDays (instant.seconds / secondsPerDay)

def secondOfDay (instant : Instant) : Nat :=
  (instant.seconds % secondsPerDay).toNat

/-- Hours, minutes and seconds. -/
def clockText (instant : Instant) : String :=
  let second := instant.secondOfDay
  padded 2 (second / 3600) ++ ":" ++ padded 2 (second / 60 % 60) ++ ":" ++
    padded 2 (second % 60 + instant.nanos / nanosPerSecond)

/-- The part of a second, to as many groups of three digits as it takes. -/
def fractionText (instant : Instant) : String :=
  let nanos := instant.nanos % nanosPerSecond
  if nanos = 0 then ""
  else if nanos % 1000000 = 0 then "." ++ padded 3 (nanos / 1000000)
  else if nanos % 1000 = 0 then "." ++ padded 6 (nanos / 1000)
  else "." ++ padded 9 nanos

/-- The instant for people to read. -/
def displayText (instant : Instant) : String :=
  instant.date.text ++ " " ++ instant.clockText ++ instant.fractionText ++ " UTC"

/-- The instant in the form of RFC 3339, without the part of a second. -/
def secondsText (instant : Instant) : String :=
  instant.date.text ++ "T" ++ instant.clockText ++ "Z"

/-- The instant in the form of RFC 3339, to the nanosecond. -/
def nanosText (instant : Instant) : String :=
  instant.date.text ++ "T" ++ instant.clockText ++ "." ++
    padded 9 (instant.nanos % nanosPerSecond) ++ "Z"

/-- The first and the last year that instants may lie in. -/
def firstYear : Int := -262143

def lastYear : Int := 262142

/-- The instant lies in a year of the calendar. -/
def inCalendar (instant : Instant) : Bool :=
  (Date.mk firstYear 1 1).toDays ≤ instant.seconds / secondsPerDay &&
    instant.seconds / secondsPerDay ≤ (Date.mk lastYear 12 31).toDays

/-- The instant a number of seconds earlier, if the calendar has it. -/
def before? (instant : Instant) (seconds : Int) : Option Instant :=
  let earlier : Instant := ⟨instant.seconds - seconds, instant.nanos⟩
  if earlier.inCalendar then some earlier else none

end Instant

end TimeRollup.Calendar
