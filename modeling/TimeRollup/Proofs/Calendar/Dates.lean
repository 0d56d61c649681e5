import Mathlib.Tactic.IntervalCases
import TimeRollup.Calendar.Date

/-!
# Days and dates

Four hundred years are four centuries of twenty-five spans of four years, where a century lacks its last
day unless it is the fourth.  With years that start in March that is the day at which leap years differ
from the others.  So each day has a position among these periods, the date of the day can be read off
the position, and the number of the day off the date.
-/

namespace TimeRollup.Calendar

/-- Where a day stands: in the century of an era of 400 years, in a span of four years of the century, in
a year of the span, and in that year. -/
structure Position where
  era : Int
  century : Int
  span : Int
  year : Int
  day : Int
  century_bounds : 0 ≤ century ∧ century ≤ 3
  span_bounds : 0 ≤ span ∧ span ≤ 24
  year_bounds : 0 ≤ year ∧ year ≤ 3
  day_bounds : 0 ≤ day ∧ day ≤ 365
  /-- Only the last year of a span has one day more, and not in the last span of a century but the
  fourth. -/
  leap : day = 365 → year = 3 ∧ (span = 24 → century = 3)

namespace Position

variable (position : Position)

/-- The number of the day from the start of its era. -/
def dayOfEra : Int :=
  36524 * position.century + 1461 * position.span + 365 * position.year + position.day

/-- The number of the day from 1 January 1970. -/
def days : Int :=
  146097 * position.era + position.dayOfEra - 719468

def yearOfEra : Int :=
  100 * position.century + 4 * position.span + position.year

def monthFromMarch : Int :=
  (5 * position.day + 2) / 153

def date : Date where
  year := position.yearOfEra + position.era * 400 + if position.monthFromMarch < 10 then 0 else 1
  month := (if position.monthFromMarch < 10 then position.monthFromMarch + 3
    else position.monthFromMarch - 9).toNat
  day := (position.day - (153 * position.monthFromMarch + 2) / 5 + 1).toNat

theorem exists_days_eq (days : Int) : ∃ position : Position, position.days = days := by
  obtain ⟨era, dayOfEra, hera, hdays⟩ : ∃ era dayOfEra : Int,
      (0 ≤ dayOfEra ∧ dayOfEra < 146097) ∧ days = 146097 * era + dayOfEra - 719468 :=
    ⟨(days + 719468) / 146097, (days + 719468) % 146097, by omega, by omega⟩
  obtain ⟨century, dayOfCentury, hcentury, hdayOfCentury, hdayOfEra⟩ :
      ∃ century dayOfCentury : Int, (0 ≤ century ∧ century ≤ 3) ∧
        (0 ≤ dayOfCentury ∧ dayOfCentury ≤ 36524 ∧ (dayOfCentury = 36524 → century = 3)) ∧
        dayOfEra = 36524 * century + dayOfCentury :=
    ⟨min (dayOfEra / 36524) 3, dayOfEra - 36524 * min (dayOfEra / 36524) 3, by omega, by omega,
      by omega⟩
  obtain ⟨span, dayOfSpan, hspan, hdayOfSpan, hsplit⟩ :
      ∃ span dayOfSpan : Int, (0 ≤ span ∧ span ≤ 24) ∧
        (0 ≤ dayOfSpan ∧ dayOfSpan ≤ 1460 ∧ (dayOfSpan = 1460 → span = 24 → century = 3)) ∧
        dayOfCentury = 1461 * span + dayOfSpan :=
    ⟨dayOfCentury / 1461, dayOfCentury % 1461, by omega, by omega, by omega⟩
  refine ⟨⟨era, century, span, min (dayOfSpan / 365) 3, dayOfSpan - 365 * min (dayOfSpan / 365) 3,
    hcentury, hspan, by omega, by omega, by omega⟩, ?_⟩
  simp only [Position.days, Position.dayOfEra]
  omega

theorem dayOfEra_bounds : 0 ≤ position.dayOfEra ∧ position.dayOfEra < 146097 := by
  obtain ⟨era, century, span, year, day, hcentury, hspan, hyear, hday, hleap⟩ := position
  simp only [dayOfEra]
  omega

/-- A leap day is made up for in the division by 1460, a day at the end of an era in that by 146096. -/
theorem yearOfEra_eq :
    (position.dayOfEra - position.dayOfEra / 1460 + position.dayOfEra / 36524 -
      position.dayOfEra / 146096) / 365 = position.yearOfEra := by
  obtain ⟨era, century, span, year, day, hcentury, hspan, hyear, hday, hleap⟩ := position
  simp only [dayOfEra, yearOfEra]
  have hcenturies : (36524 * century + 1461 * span + 365 * year + day) / 36524 -
      (36524 * century + 1461 * span + 365 * year + day) / 146096 = century := by
    rcases Int.lt_or_le (1461 * span + 365 * year + day) 36524 with hshort | hlong
    · have hquotient : (36524 * century + 1461 * span + 365 * year + day) / 36524 = century := by
        omega
      omega
    · obtain rfl : century = 3 := by omega
      omega
  have hspans : (36524 * century + 1461 * span + 365 * year + day) / 1460 = 25 * century + span +
      if 24 * century + span + 365 * year + day < 1460 then 0 else 1 := by
    split <;> omega
  rw [hspans]
  split <;> omega

theorem dayOfYear_eq :
    position.dayOfEra - (365 * position.yearOfEra + position.yearOfEra / 4 -
      position.yearOfEra / 100) = position.day := by
  obtain ⟨era, century, span, year, day, hcentury, hspan, hyear, hday, hleap⟩ := position
  simp only [dayOfEra, yearOfEra]
  omega

theorem monthFromMarch_bounds : 0 ≤ position.monthFromMarch ∧ position.monthFromMarch < 12 := by
  have hday := position.day_bounds
  simp only [monthFromMarch]
  omega

theorem dayOfMonth_bounds :
    0 ≤ position.day - (153 * position.monthFromMarch + 2) / 5 ∧
      position.day - (153 * position.monthFromMarch + 2) / 5 < 31 := by
  have hday := position.day_bounds
  simp only [monthFromMarch]
  omega

theorem ofDays_days : Date.ofDays position.days = position.date := by
  have hbounds := position.dayOfEra_bounds
  have hshifted : position.days + 719468 = 146097 * position.era + position.dayOfEra := by
    simp only [days]
    omega
  have hera : (position.days + 719468) / 146097 = position.era := by omega
  have hdayOfEra : (position.days + 719468) % 146097 = position.dayOfEra := by omega
  have hmonth := position.monthFromMarch_bounds
  simp only [Date.ofDays, hera, hdayOfEra, yearOfEra_eq, dayOfYear_eq, date]
  rw [show (5 * position.day + 2) / 153 = position.monthFromMarch from rfl]
  congr 1
  split <;> split <;> omega

theorem yearOfEra_bounds : 0 ≤ position.yearOfEra ∧ position.yearOfEra < 400 := by
  have hcentury := position.century_bounds
  have hspan := position.span_bounds
  have hyear := position.year_bounds
  simp only [yearOfEra]
  omega

/-- The year that starts in March of the date, where January and February belong to the year before. -/
theorem yearFromMarch_date :
    (if position.date.month ≤ 2 then position.date.year - 1 else position.date.year) =
      position.yearOfEra + position.era * 400 := by
  have hmonth := position.monthFromMarch_bounds
  simp only [date]
  split <;> split at * <;> omega

theorem monthFromMarch_date :
    (((position.date.month + 9) % 12 : Nat) : Int) = position.monthFromMarch := by
  have hmonth := position.monthFromMarch_bounds
  simp only [date]
  split <;> omega

theorem day_date :
    (position.date.day : Int) =
      position.day - (153 * position.monthFromMarch + 2) / 5 + 1 := by
  have hday := position.dayOfMonth_bounds
  simp only [date]
  omega

theorem toDays_date : position.date.toDays = position.days := by
  have hyear := position.yearOfEra_bounds
  have hera : (position.yearOfEra + position.era * 400) / 400 = position.era := by omega
  have hyearOfEra : (position.yearOfEra + position.era * 400) % 400 = position.yearOfEra := by
    omega
  have hdayOfYear := position.dayOfYear_eq
  simp only [Date.toDays, yearFromMarch_date, monthFromMarch_date, day_date, hera, hyearOfEra, days]
  omega

/-- The last day of a year that has one more is the 29th of February. -/
theorem isLeapYear_of_day (hday : position.day = 365) :
    isLeapYear (position.yearOfEra + position.era * 400 + 1) = true := by
  obtain ⟨hyear, hspan⟩ := position.leap hday
  have hcentury := position.century_bounds
  have hspans := position.span_bounds
  simp only [isLeapYear, yearOfEra, Bool.and_eq_true, Bool.or_eq_true, beq_iff_eq, bne_iff_ne]
  omega

theorem dayOfMonth_lt :
    position.day - (153 * position.monthFromMarch + 2) / 5 <
      daysInMonth position.date.year position.date.month := by
  have hday := position.day_bounds
  have hquotient : (5 * position.day + 2) / 153 = position.monthFromMarch := rfl
  have hleap := position.isLeapYear_of_day
  obtain ⟨hfirst, hlast⟩ := position.monthFromMarch_bounds
  simp only [date]
  generalize position.monthFromMarch = month at *
  by_cases hfebruary : month = 11
  · subst hfebruary
    simp only [daysInMonth, Int.reduceLT, if_false, Int.reduceSub, Int.reduceToNat]
    split
    · omega
    · rename_i hcommon
      have hend : position.day ≠ 365 := fun h => hcommon (hleap h)
      omega
  · have hbefore : month < 11 := by omega
    interval_cases month <;> simp [daysInMonth] <;> omega

theorem isValid_date : position.date.isValid = true := by
  have hday := position.day_date
  have hpositive := position.dayOfMonth_bounds
  have hlast := position.dayOfMonth_lt
  simp only [Date.isValid, Bool.and_eq_true, decide_eq_true_eq]
  omega

end Position

namespace Date

/-- Counting the days up to the date of a day gives that day. -/
theorem toDays_ofDays (days : Int) : (ofDays days).toDays = days := by
  obtain ⟨position, rfl⟩ := Position.exists_days_eq days
  rw [position.ofDays_days, position.toDays_date]

/-- The day that a leap year adds. -/
example : ofDays 19782 = ⟨2024, 2, 29⟩ ∧ toDays ⟨2024, 2, 29⟩ = 19782 := by
  decide

theorem isValid_ofDays (days : Int) : (ofDays days).isValid = true := by
  obtain ⟨position, rfl⟩ := Position.exists_days_eq days
  rw [position.ofDays_days, position.isValid_date]

theorem month_le_of_isValid {date : Date} (h : date.isValid = true) : date.month ≤ 12 := by
  simp only [isValid, Bool.and_eq_true, decide_eq_true_eq] at h
  unfold daysInMonth at h
  split at h <;> omega

theorem day_le_of_isValid {date : Date} (h : date.isValid = true) : date.day ≤ 31 := by
  have hmonth : daysInMonth date.year date.month ≤ 31 := by
    unfold daysInMonth
    repeat' split
    all_goals decide
  simp only [isValid, Bool.and_eq_true, decide_eq_true_eq] at h
  omega

end Date

end TimeRollup.Calendar
