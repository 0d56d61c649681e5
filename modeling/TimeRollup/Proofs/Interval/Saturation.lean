import Mathlib.Algebra.Order.BigOperators.Group.List
import TimeRollup.Proofs.Interval.Length
import TimeRollup.Proofs.Interval.NormalForm

/-!
# Lengths that saturate

The search for terms comes by the terms of a normal form in their order, and cutting off after every step
is cutting off once, so the length depends neither on the order of the terms nor on where it gets too
long.  It is the exact one, cut off at the largest number, as far as the counts are written in the digits
from 0 to 9: one in digits of another script is taken for the largest number itself.
-/

namespace TimeRollup.Interval

open TimeRollup.Text

namespace Term

/-- The count is written in decimal digits. -/
structure HasCount (term : Term) : Prop where
  digits_ne_nil : term.digits ≠ []
  isDecimalDigit : ∀ c ∈ term.digits, isDecimalDigit c = true

variable {term other : Term}

theorem HasCount.count_eq (h : term.HasCount) :
    term.count = if term.IsAscii then min int64Max (term.number : ℤ) else int64Max := by
  split
  · exact count_eq_min h.digits_ne_nil ‹_›
  · exact count_of_not_isAscii h.digits_ne_nil h.isDecimalDigit ‹_›

theorem HasCount.count_bounds (h : term.HasCount) : 0 ≤ term.count ∧ term.count ≤ int64Max := by
  have hmax : 0 ≤ int64Max := by decide
  rw [h.count_eq]
  split <;> omega

/-- A greater number does not count less, unless it is the only one in the digits from 0 to 9. -/
theorem HasCount.count_le_count (h : term.HasCount) (hother : other.HasCount)
    (hnumber : term.number ≤ other.number) (hscript : other.IsAscii → term.IsAscii) :
    term.count ≤ other.count := by
  rw [hother.count_eq]
  split
  · rename_i hascii
    rw [h.count_eq, if_pos (hscript hascii)]
    exact min_le_min_left _ (Int.ofNat_le.2 hnumber)
  · exact h.count_bounds.2

theorem HasCount.mul_nonneg (h : term.HasCount) : 0 ≤ term.count * term.unit.secs :=
  Int.mul_nonneg h.count_bounds.1 term.unit.secs_nonneg

theorem HasCount.secs_eq_min (h : term.HasCount) :
    term.secs = min int64Max (term.count * term.unit.secs) := by
  rw [secs, clampInt64_of_nonneg h.mul_nonneg]

/-- A count that was cut off, or taken for the largest number, is long enough to be cut off again. -/
theorem HasCount.min_number_le (h : term.HasCount) :
    min int64Max ((term.number : ℤ) * term.unit.secs) ≤ term.count * term.unit.secs := by
  have hmax : 0 ≤ int64Max := by decide
  have hcount : min int64Max (term.number : ℤ) ≤ term.count := by
    rw [h.count_eq]
    split <;> omega
  calc min int64Max ((term.number : ℤ) * term.unit.secs)
      = clampInt64 (min int64Max (term.number : ℤ) * term.unit.secs) :=
        (clampInt64_min_mul (Int.natCast_nonneg _) term.unit.secs_nonneg).symm
    _ = min int64Max (min int64Max (term.number : ℤ) * term.unit.secs) :=
        clampInt64_of_nonneg
          (Int.mul_nonneg (le_min hmax (Int.natCast_nonneg _)) term.unit.secs_nonneg)
    _ ≤ min int64Max (term.number : ℤ) * term.unit.secs := min_le_right _ _
    _ ≤ term.count * term.unit.secs := mul_le_mul_of_nonneg_right hcount term.unit.secs_nonneg

end Term

theorem TermText.hasCount (part : TermText) : part.term.HasCount :=
  ⟨part.digits_ne_nil, part.isDecimalDigit_digits⟩

/-! ## Adding up -/

/-- The seconds of the terms, cut off at the largest number after each of them. -/
def secsSoFar (terms : List Term) : ℤ :=
  terms.foldl (fun total term => clampInt64 (total + term.secs)) 0

/-- The seconds of the terms by the counts that are read. -/
def countedSecs (terms : List Term) : ℤ :=
  (terms.map fun term => term.count * term.unit.secs).sum

variable {terms others : List Term}

theorem countedSecs_nonneg (h : ∀ term ∈ terms, term.HasCount) : 0 ≤ countedSecs terms := by
  refine List.sum_nonneg fun seconds hseconds => ?_
  obtain ⟨term, hterm, rfl⟩ := List.mem_map.1 hseconds
  exact (h term hterm).mul_nonneg

theorem secsSoFar_eq_min (h : ∀ term ∈ terms, term.HasCount) :
    secsSoFar terms = min int64Max (countedSecs terms) := by
  have hparts : ∀ term ∈ terms, 0 ≤ term.count * term.unit.secs ∧
      term.secs = min int64Max (term.count * term.unit.secs) :=
    fun term hterm => ⟨(h term hterm).mul_nonneg, (h term hterm).secs_eq_min⟩
  exact foldl_clampInt64_zero hparts

theorem secsSoFar_bounds (h : ∀ term ∈ terms, term.HasCount) :
    0 ≤ secsSoFar terms ∧ secsSoFar terms ≤ int64Max := by
  have hmax : 0 ≤ int64Max := by decide
  rw [secsSoFar_eq_min h]
  exact ⟨le_min hmax (countedSecs_nonneg h), min_le_left _ _⟩

theorem secsSoFar_perm (h : ∀ term ∈ terms, term.HasCount) (hperm : others.Perm terms) :
    secsSoFar others = secsSoFar terms := by
  rw [secsSoFar_eq_min h, secsSoFar_eq_min fun term hterm => h term (hperm.mem_iff.1 hterm),
    countedSecs, (hperm.map _).sum_eq, countedSecs]

/-- The terms count the same units, each at least as often.  Where the greater number is written in the
digits from 0 to 9, so is the smaller one. -/
def CountAtMost : List Term → List Term → Prop :=
  List.Forall₂ fun term other => term.unit = other.unit ∧ term.number ≤ other.number ∧
    (other.IsAscii → term.IsAscii)

theorem secsSoFar_mono (h : ∀ term ∈ terms, term.HasCount) (hothers : ∀ term ∈ others, term.HasCount)
    (hle : CountAtMost terms others) : secsSoFar terms ≤ secsSoFar others := by
  rw [secsSoFar_eq_min h, secsSoFar_eq_min hothers]
  apply min_le_min_left
  induction hle with
  | nil => rfl
  | @cons term other terms others hterm _ ih =>
    obtain ⟨hcount, h⟩ := List.forall_mem_cons.1 h
    obtain ⟨hcount', hothers⟩ := List.forall_mem_cons.1 hothers
    obtain ⟨hunit, hnumber, hscript⟩ := hterm
    have hfirst : term.count * term.unit.secs ≤ other.count * other.unit.secs := by
      rw [hunit]
      exact mul_le_mul_of_nonneg_right (hcount.count_le_count hcount' hnumber hscript)
        other.unit.secs_nonneg
    exact add_le_add hfirst (ih h hothers)

/-! ## Counts in other scripts -/

theorem TimeUnit.secs_eq_zero_iff {unit : TimeUnit} : unit.secs = 0 ↔ unit.isSubSecond = true := by
  cases unit <;> decide

theorem min_totalSecs_le_countedSecs (h : ∀ term ∈ terms, term.HasCount) :
    min int64Max (totalSecs terms) ≤ countedSecs terms := by
  induction terms with
  | nil => exact min_le_right _ _
  | cons term terms ih =>
    obtain ⟨hterm, hterms⟩ := List.forall_mem_cons.1 h
    have hfirst := hterm.min_number_le
    have hlater := ih hterms
    have hnonneg := hterm.mul_nonneg
    have hnonneg' := countedSecs_nonneg hterms
    simp only [totalSecs, countedSecs, List.map_cons, List.sum_cons] at hlater hnonneg' ⊢
    omega

/-- A term whose count is taken for the largest number is as long as a length can be. -/
theorem le_countedSecs_of_mem (h : ∀ term ∈ terms, term.HasCount) {term : Term} (hterm : term ∈ terms)
    (hscript : ¬ term.IsAscii) (hunit : term.unit.isSubSecond = false) :
    int64Max ≤ countedSecs terms := by
  have hpos : 0 < term.unit.secs := by
    refine lt_of_le_of_ne term.unit.secs_nonneg (Ne.symm ?_)
    rw [Ne, TimeUnit.secs_eq_zero_iff, hunit]
    decide
  calc int64Max ≤ int64Max * term.unit.secs := le_mul_of_one_le_right (by decide) hpos
    _ = term.count * term.unit.secs := by rw [(h term hterm).count_eq, if_neg hscript]
    _ ≤ countedSecs terms := by
      refine List.single_le_sum (fun seconds hseconds => ?_) _
        (List.mem_map_of_mem (f := fun term => term.count * term.unit.secs) hterm)
      obtain ⟨other, hother, rfl⟩ := List.mem_map.1 hseconds
      exact (h other hother).mul_nonneg

theorem secsSoFar_eq_min_totalSecs (h : ∀ term ∈ terms, term.HasCount)
    (hscript : ∀ term ∈ terms, term.IsAscii ∨ term.unit.isSubSecond = true) :
    secsSoFar terms = min int64Max (totalSecs terms) := by
  have hparts : ∀ term ∈ terms, 0 ≤ (term.number : ℤ) * term.unit.secs ∧
      term.secs = min int64Max ((term.number : ℤ) * term.unit.secs) := by
    intro term hterm
    refine ⟨Int.mul_nonneg (Int.natCast_nonneg _) term.unit.secs_nonneg, ?_⟩
    rcases hscript term hterm with hascii | hunit
    · exact Term.secs_eq_min (h term hterm).digits_ne_nil hascii
    · have hzero := TimeUnit.secs_eq_zero_iff.2 hunit
      rw [(h term hterm).secs_eq_min, hzero, mul_zero, mul_zero]
  exact foldl_clampInt64_zero hparts

/-- The length is the exact one, cut off, if and only if all counts that matter are written in the digits
from 0 to 9 or the exact one is too long anyway. -/
theorem secsSoFar_eq_min_totalSecs_iff (h : ∀ term ∈ terms, term.HasCount) :
    secsSoFar terms = min int64Max (totalSecs terms) ↔
      (∀ term ∈ terms, term.IsAscii ∨ term.unit.isSubSecond = true) ∨
        int64Max ≤ totalSecs terms := by
  constructor
  · intro hexact
    by_contra hnot
    simp only [not_or, not_forall, not_le, Bool.not_eq_true] at hnot
    obtain ⟨⟨term, hterm, hscript, hunit⟩, hshort⟩ := hnot
    have hlong := le_countedSecs_of_mem h hterm hscript hunit
    rw [secsSoFar_eq_min h] at hexact
    omega
  · rintro (hscript | hlong)
    · exact secsSoFar_eq_min_totalSecs h hscript
    · have hcounted := min_totalSecs_le_countedSecs h
      rw [min_eq_left hlong] at hcounted
      rw [secsSoFar_eq_min h, min_eq_left hcounted, min_eq_left hlong]

/-! ## Lengths of intervals -/

theorem hasCount_of_mem_parts {parts : List TermText} :
    ∀ term ∈ parts.map TermText.term, term.HasCount := by
  intro term hterm
  obtain ⟨part, -, rfl⟩ := List.mem_map.1 hterm
  exact part.hasCount

/-- The terms that the search finds are those of the normal form. -/
theorem scanTerms_joinWords (parts : List TermText) :
    scanTerms (joinWords (parts.map TermText.text)) = parts.map TermText.term :=
  (spells_of_readTerms? rfl (readTerms?_words_joinWords parts)).scanTerms_eq

theorem approxSecs_eq_secsSoFar {interval : Interval} {parts : List TermText}
    (h : interval.text.toList = joinWords (parts.map TermText.text)) :
    interval.approxSecs = secsSoFar (parts.map TermText.term) := by
  rw [approxSecs, h, scanTerms_joinWords, secsSoFar]

/-- The length of an interval by the terms of its text.  They are found in their order, nothing on the way
gets longer than the largest number, and the length is the sum of the counts that are read, cut off once.
It is the exact sum, cut off, if and only if no count that matters is in digits of another script or the
exact sum is too long anyway.  The order of the terms does not matter, and greater numbers in the same
digits give no shorter length. -/
theorem approxSecs_eq_min_totalSecs_iff {s : String} {interval : Interval}
    (h : ofText s = .ok interval) :
    (∃ parts : List TermText, interval.text.toList = joinWords (parts.map TermText.text)) ∧
      ∀ parts : List TermText, interval.text.toList = joinWords (parts.map TermText.text) →
        scanTerms interval.text.toList = parts.map TermText.term ∧
        (∀ term ∈ parts.map TermText.term,
          term.count = (if term.IsAscii then min int64Max (term.number : ℤ) else int64Max) ∧
          0 ≤ term.count ∧ term.secs = min int64Max (term.count * term.unit.secs) ∧ 0 ≤ term.secs) ∧
        (∀ n, 0 ≤ secsSoFar ((parts.take n).map TermText.term) ∧
          secsSoFar ((parts.take n).map TermText.term) ≤ int64Max) ∧
        interval.approxSecs = min int64Max (countedSecs (parts.map TermText.term)) ∧
        (interval.approxSecs = min int64Max (totalSecs (parts.map TermText.term)) ↔
          (∀ term ∈ parts.map TermText.term, term.IsAscii ∨ term.unit.isSubSecond = true) ∨
            int64Max ≤ totalSecs (parts.map TermText.term)) ∧
        ∀ (other : Interval) (others : List TermText),
          other.text.toList = joinWords (others.map TermText.text) →
            ((others.map TermText.term).Perm (parts.map TermText.term) →
              other.approxSecs = interval.approxSecs) ∧
            (CountAtMost (parts.map TermText.term) (others.map TermText.term) →
              interval.approxSecs ≤ other.approxSecs) := by
  obtain ⟨found, -, hfound⟩ := isNormal_text h
  refine ⟨⟨found, hfound⟩, fun parts hparts => ?_⟩
  have hcounts := @hasCount_of_mem_parts parts
  have hlength := approxSecs_eq_secsSoFar hparts
  refine ⟨by rw [hparts, scanTerms_joinWords], fun term hterm => ?_,
    fun n => secsSoFar_bounds hasCount_of_mem_parts, ?_, ?_, fun other others hothers => ?_⟩
  · have hcount := hcounts term hterm
    refine ⟨hcount.count_eq, hcount.count_bounds.1, hcount.secs_eq_min, ?_⟩
    rw [hcount.secs_eq_min]
    exact le_min (by decide) hcount.mul_nonneg
  · rw [hlength, secsSoFar_eq_min hcounts]
  · rw [hlength, secsSoFar_eq_min_totalSecs_iff hcounts]
  · rw [hlength, approxSecs_eq_secsSoFar hothers]
    exact ⟨secsSoFar_perm hcounts, secsSoFar_mono hcounts hasCount_of_mem_parts⟩

def twoHours : TermText :=
  ⟨"2".toList, [' '], "hours".toList, .hour, by decide, List.all_eq_true.1 (by decide), .inr rfl,
    "hour".toList, by decide, .inr rfl⟩

def halfHour : TermText :=
  ⟨"30".toList, [], "min".toList, .minute, by decide, List.all_eq_true.1 (by decide), .inl rfl,
    "min".toList, by decide, .inl rfl⟩

def hoursFirst : Interval :=
  ⟨"2 hours 30min", by decide +kernel⟩

def minutesFirst : Interval :=
  ⟨"30min 2 hours", by decide +kernel⟩

theorem approxSecs_eq_min_totalSecs_iff_hours :
    ofText "2\tHours 30MIN" = .ok hoursFirst ∧
      hoursFirst.text.toList = joinWords ([twoHours, halfHour].map TermText.text) ∧
      minutesFirst.text.toList = joinWords ([halfHour, twoHours].map TermText.text) ∧
      scanTerms hoursFirst.text.toList = [twoHours.term, halfHour.term] ∧
      hoursFirst.approxSecs = min int64Max (totalSecs [twoHours.term, halfHour.term]) ∧
      minutesFirst.approxSecs = hoursFirst.approxSecs := by
  have hread : ofText "2\tHours 30MIN" = .ok hoursFirst := by decide +kernel
  have htext : hoursFirst.text.toList = joinWords ([twoHours, halfHour].map TermText.text) := by
    decide
  have hother : minutesFirst.text.toList = joinWords ([halfHour, twoHours].map TermText.text) := by
    decide
  obtain ⟨hscan, -, -, -, hexact, hothers⟩ :=
    (approxSecs_eq_min_totalSecs_iff hread).2 [twoHours, halfHour] htext
  exact ⟨hread, htext, hother, hscan, hexact.2 (.inl (by decide)),
    (hothers minutesFirst [halfHour, twoHours] hother).1 (List.Perm.swap _ _ _)⟩

/-- Three hours in Arabic digits are as long as a length can be. -/
theorem not_approxSecs_eq_min_totalSecs :
    ¬ ∀ (s : String) (interval : Interval), ofText s = .ok interval →
      interval.approxSecs = min int64Max (totalSecs interval.terms) := by
  intro h
  have hexact := h "٣ hours" ⟨"٣ hours", by decide +kernel⟩ (by decide +kernel)
  exact absurd hexact (by decide +kernel)

end TimeRollup.Interval
