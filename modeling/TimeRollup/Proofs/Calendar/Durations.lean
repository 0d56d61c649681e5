import Mathlib.Algebra.Order.Group.Unbundled.Int
import Mathlib.Data.List.Basic
import TimeRollup.Calendar.Duration
import TimeRollup.Proofs.Text.Integers

/-!
# Durations are exact

Hours, days and weeks are turned into seconds at once, months and years into days of 64 bits first.  The
limit is the same on both ways, because days that do not fit in 64 bits are too long in any case.  So what
is read is the exact product of the count and the length of the unit, or it is refused.
-/

namespace TimeRollup.Calendar

open TimeRollup.Text

namespace Duration

/-- The length of the unit that a letter stands for, in seconds. -/
def unitSeconds? : Char → Option ℤ
  | 'h' => some 3600
  | 'd' => some 86400
  | 'w' => some (7 * 86400)
  | 'm' => some (30 * 86400)
  | 'y' => some (365 * 86400)
  | _ => none

/-- The seconds are no longer than 64 bits of milliseconds. -/
def IsInRange (seconds : ℤ) : Prop :=
  |seconds| * 1000 ≤ int64Max

instance (seconds : ℤ) : Decidable (IsInRange seconds) :=
  inferInstanceAs (Decidable (_ ≤ _))

theorem ofSeconds?_eq (seconds : ℤ) :
    ofSeconds? seconds = if IsInRange seconds then some seconds else none := by
  have hlimit : (seconds.natAbs : ℤ) ≤ longestDuration ↔ IsInRange seconds := by
    rw [Int.natCast_natAbs]
    unfold IsInRange longestDuration int64Max
    omega
  rw [ofSeconds?, if_congr hlimit rfl rfl]

/-- Days that do not fit in 64 bits are more seconds than there may be. -/
theorem mulInt64?_bind_ofDays? (count days : ℤ) :
    (mulInt64? count days).bind ofDays? = ofSeconds? (count * (days * 86400)) := by
  have hseconds : count * days * (24 * 3600) = count * (days * 86400) := by ring
  cases hproduct : mulInt64? count days with
  | some product =>
    obtain ⟨-, rfl⟩ := mulInt64?_eq_some_iff.1 hproduct
    rw [Option.bind_some, ofDays?, hseconds]
  | none =>
    have hlost : ¬ FitsInt64 (count * days) := by
      intro hfits
      rw [mulInt64?_eq_some_iff.2 ⟨hfits, rfl⟩] at hproduct
      simp at hproduct
    have hlong : ¬ IsInRange (count * (days * 86400)) := by
      rw [← hseconds]
      unfold FitsInt64 int64Min int64Max at hlost
      unfold IsInRange int64Max
      generalize count * days = product at hlost ⊢
      rw [← Int.natCast_natAbs]
      omega
    rw [Option.bind_none, ofSeconds?_eq, if_neg hlong]

/-- Whichever way a unit goes, so many of it are the product with its length, if that is in range. -/
theorem ofUnit?_eq_map (unit : Char) :
    ofUnit? unit = (unitSeconds? unit).map fun length count => ofSeconds? (count * length) := by
  unfold ofUnit?
  split
  · rfl
  · rfl
  · rfl
  · exact congrArg some (funext fun count => mulInt64?_bind_ofDays? count 30)
  · exact congrArg some (funext fun count => mulInt64?_bind_ofDays? count 365)
  · simp [unitSeconds?, *]

/-! ## What a text can be read as -/

/-- The text is a decimal integer of 64 bits with the letter of a unit right behind it. -/
inductive CountsUnits : List Char → ℤ → ℤ → Prop
  | intro {numeral : List Char} {unit : Char} {count length : ℤ} (hcount : IsDecimal numeral count)
      (hfits : FitsInt64 count) (hunit : unitSeconds? unit = some length) :
      CountsUnits (numeral ++ [unit]) count length

/-- The text ends in the letter of a unit, but what stands before it is no integer of 64 bits. -/
def Miscounts (text : List Char) : Prop :=
  ∃ numeral unit, text = numeral ++ [unit] ∧ (∃ length, unitSeconds? unit = some length) ∧
    ∀ count, IsDecimal numeral count → ¬ FitsInt64 count

/-- The text does not end in the letter of a unit. -/
def LacksUnit (text : List Char) : Prop :=
  ∀ numeral unit, text = numeral ++ [unit] → unitSeconds? unit = none

section Concat

variable {numeral : List Char} {unit : Char}

theorem countsUnits_concat_iff {count length : ℤ} :
    CountsUnits (numeral ++ [unit]) count length ↔
      readInt64 numeral = .ok count ∧ unitSeconds? unit = some length := by
  rw [readInt64_eq_ok_iff_isDecimal]
  constructor
  · generalize htext : numeral ++ [unit] = text
    rintro ⟨hcount, hfits, hunit⟩
    obtain ⟨rfl, hlast⟩ := List.append_inj' htext rfl
    rw [List.singleton_inj.1 hlast]
    exact ⟨⟨hcount, hfits⟩, hunit⟩
  · rintro ⟨⟨hcount, hfits⟩, hunit⟩
    exact ⟨hcount, hfits, hunit⟩

theorem miscounts_concat_iff :
    Miscounts (numeral ++ [unit]) ↔
      (∃ length, unitSeconds? unit = some length) ∧ ∀ count, readInt64 numeral ≠ .ok count := by
  simp only [ne_eq, readInt64_eq_ok_iff_isDecimal, not_and]
  constructor
  · rintro ⟨_, _, htext, hunit, hcount⟩
    obtain ⟨rfl, hlast⟩ := List.append_inj' htext rfl
    rw [List.singleton_inj.1 hlast]
    exact ⟨hunit, hcount⟩
  · rintro ⟨hunit, hcount⟩
    exact ⟨_, _, rfl, hunit, hcount⟩

theorem lacksUnit_concat_iff : LacksUnit (numeral ++ [unit]) ↔ unitSeconds? unit = none := by
  constructor
  · intro h
    exact h numeral unit rfl
  · rintro hunit _ _ htext
    obtain ⟨-, hlast⟩ := List.append_inj' htext rfl
    rwa [← List.singleton_inj.1 hlast]

end Concat

/-- The product of a count and the length of its unit, exactly, or the reason why there is none. -/
structure IsReading (text : List Char) (result : Except DurationFault ℤ) : Prop where
  ok_iff : ∀ seconds, result = .ok seconds ↔ ∃ count length,
    CountsUnits text count length ∧ IsInRange (count * length) ∧ seconds = count * length
  outOfRange_iff : result = .error (.outOfRange (String.ofList text)) ↔ ∃ count length,
    CountsUnits text count length ∧ ¬ IsInRange (count * length)
  number_iff : (∃ fault, result = .error (.number fault)) ↔ Miscounts text
  noUnit_iff : result = .error (.noUnit (String.ofList text)) ↔ LacksUnit text

end Duration

open Duration

variable {s : String}

/-! ## What a text is read as -/

theorem readDuration_of_lacksUnit (h : LacksUnit (lower (trim s.toList))) :
    readDuration s = .error (.noUnit (String.ofList (lower (trim s.toList)))) := by
  have hunit : (lower (trim s.toList)).getLast?.bind ofUnit? = none := by
    rcases List.eq_nil_or_concat' (lower (trim s.toList)) with hnil | ⟨numeral, unit, htext⟩
    · rw [hnil]
      rfl
    · rw [htext, List.getLast?_concat, Option.bind_some, ofUnit?_eq_map, h numeral unit htext,
        Option.map_none]
  simp only [readDuration, hunit]

theorem readDuration_of_unit {numeral : List Char} {unit : Char} {length : ℤ}
    (htext : lower (trim s.toList) = numeral ++ [unit]) (hunit : unitSeconds? unit = some length) :
    readDuration s = ((readInt64 numeral).mapError .number).bind fun count =>
      if IsInRange (count * length) then .ok (count * length)
      else .error (.outOfRange (String.ofList (numeral ++ [unit]))) := by
  have hlast : (numeral ++ [unit]).getLast?.bind ofUnit? =
      some fun count => ofSeconds? (count * length) := by
    rw [List.getLast?_concat, Option.bind_some, ofUnit?_eq_map, hunit, Option.map_some]
  simp only [readDuration, htext, hlast, List.dropLast_concat]
  cases readInt64 numeral with
  | error fault => rfl
  | ok count =>
    simp only [ofSeconds?_eq, Except.mapError, Except.bind]
    by_cases hrange : IsInRange (count * length)
    · simp only [if_pos hrange]
    · simp only [if_neg hrange]

/-- Behind a text that is no count, a unit is of no use; behind a count, it makes a duration or too long
a time. -/
theorem isReading_of_unit {numeral : List Char} {unit : Char} {length : ℤ}
    (hunit : unitSeconds? unit = some length) :
    IsReading (numeral ++ [unit]) (((readInt64 numeral).mapError .number).bind fun count =>
      if IsInRange (count * length) then .ok (count * length)
      else .error (.outOfRange (String.ofList (numeral ++ [unit])))) := by
  have hlacks : ¬ LacksUnit (numeral ++ [unit]) := by
    rw [lacksUnit_concat_iff, hunit]
    simp
  cases hread : readInt64 numeral with
  | error fault =>
    have hcounts (count other : ℤ) : ¬ CountsUnits (numeral ++ [unit]) count other := by
      simp [countsUnits_concat_iff, hread]
    have hmiscounts : Miscounts (numeral ++ [unit]) :=
      miscounts_concat_iff.2 ⟨⟨length, hunit⟩, by simp [hread]⟩
    constructor <;> simp [Except.mapError, Except.bind, hcounts, hmiscounts, hlacks]
  | ok count =>
    have hcounts (other length' : ℤ) :
        CountsUnits (numeral ++ [unit]) other length' ↔ count = other ∧ length = length' := by
      rw [countsUnits_concat_iff, hread, hunit, Except.ok.injEq, Option.some.injEq]
    have hmiscounts : ¬ Miscounts (numeral ++ [unit]) := by
      simp [miscounts_concat_iff, hread]
    by_cases hrange : IsInRange (count * length)
    · constructor <;>
        simp [Except.mapError, Except.bind, hcounts, hmiscounts, hlacks, hrange, eq_comm]
    · constructor <;>
        simp [Except.mapError, Except.bind, hcounts, hmiscounts, hlacks, hrange]

theorem isReading_of_lacksUnit {text : List Char} (h : LacksUnit text) :
    IsReading text (.error (.noUnit (String.ofList text))) := by
  have hcounts (count length : ℤ) : ¬ CountsUnits text count length := by
    rintro ⟨-, -, hunit⟩
    simp [lacksUnit_concat_iff.1 h] at hunit
  have hmiscounts : ¬ Miscounts text := by
    rintro ⟨numeral, unit, htext, ⟨length, hunit⟩, -⟩
    simp [h numeral unit htext] at hunit
  constructor <;> simp [hcounts, hmiscounts, h]

/-- Every text is read as exactly the length of time that it writes, unless it writes none or one that
is out of range, and is refused for that reason otherwise. -/
theorem isReading_readDuration (s : String) :
    IsReading (lower (trim s.toList)) (readDuration s) := by
  by_cases hlacks : LacksUnit (lower (trim s.toList))
  · rw [readDuration_of_lacksUnit hlacks]
    exact isReading_of_lacksUnit hlacks
  · simp only [LacksUnit, not_forall] at hlacks
    obtain ⟨numeral, unit, htext, hunit⟩ := hlacks
    obtain ⟨length, hlength⟩ := Option.ne_none_iff_exists'.1 hunit
    rw [readDuration_of_unit htext hlength, htext]
    exact isReading_of_unit hlength

/-- The longest duration in days and the one after it, a number of months whose days do not fit in 64
bits, and a number that does not do so itself. -/
example :
    readDuration " -106751991167D" = .ok (-9223372036828800) ∧
      readDuration "106751991168d" = .error (.outOfRange "106751991168d") ∧
      readDuration "999999999999999999m" = .error (.outOfRange "999999999999999999m") ∧
      readDuration "9223372036854775808h" = .error (.number .tooLarge) := by
  decide +kernel

end TimeRollup.Calendar
