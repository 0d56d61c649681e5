import Mathlib.Algebra.BigOperators.Group.List.Basic
import Mathlib.Algebra.Order.Ring.Defs
import Mathlib.Algebra.Order.Ring.Int
import TimeRollup.Proofs.Interval.Terms
import TimeRollup.Proofs.Text.Integers

/-!
# The length of an interval

The exact length of an interval is the sum of its terms, counted in microseconds.  The approximate length
counts whole seconds and stops at the largest 64-bit number: it is the exact one where no term is shorter
than a second and all counts are written in the digits from 0 to 9.
-/

namespace TimeRollup

open TimeRollup.Text

/-- The value of a decimal digit.  In every script the digits follow one another from zero to nine. -/
def Text.digitValue (c : Char) : ℕ :=
  if c.isDigit then c.toNat - '0'.toNat
  else match digitRanges.find? fun range => range.1 ≤ c.toNat && c.toNat ≤ range.2 with
    | some range => (c.toNat - range.1) % 10
    | none => 0

namespace Interval

/-- The microseconds of a unit.  Months and years have no fixed length. -/
def TimeUnit.micros? : TimeUnit → Option ℤ
  | .microsecond => some 1
  | .millisecond => some 1000
  | .month | .year => none
  | unit => some (unit.secs * 1000000)

def TimeUnit.isSubSecond : TimeUnit → Bool
  | .microsecond | .millisecond => true
  | _ => false

theorem TimeUnit.secs_nonneg (unit : TimeUnit) : 0 ≤ unit.secs := by
  cases unit <;> decide

theorem TimeUnit.micros_eq_secs {unit : TimeUnit} {micros : ℤ} (h : unit.isSubSecond = false)
    (hmicros : unit.micros? = some micros) : micros = unit.secs * 1000000 := by
  cases unit <;> simp_all [isSubSecond, micros?]

namespace Term

/-- The number that the digits of the count write. -/
def number (term : Term) : ℕ :=
  term.digits.foldl (fun value c => 10 * value + digitValue c) 0

def IsAscii (term : Term) : Prop :=
  ∀ c ∈ term.digits, c.isDigit = true

instance (term : Term) : Decidable term.IsAscii :=
  decidable_of_iff (term.digits.all Char.isDigit = true) List.all_eq_true

theorem number_eq_ofDigitChars {term : Term} (h : term.IsAscii) :
    term.number = Nat.ofDigitChars 10 term.digits 0 := by
  rw [number, Nat.ofDigitChars_eq_foldl]
  apply List.foldl_ext
  intro value c hc
  rw [digitValue, if_pos (h c hc)]

theorem head_ne_sign {term : Term} (h : ∀ c ∈ term.digits, isDecimalDigit c = true) :
    ∀ c ∈ term.digits.head?, c ≠ '+' ∧ c ≠ '-' := by
  intro c hc
  have hdigit := h c (List.mem_of_head? hc)
  constructor <;> rintro rfl <;> exact absurd hdigit (by decide)

theorem count_eq_min {term : Term} (hne : term.digits ≠ []) (h : term.IsAscii) :
    term.count = min int64Max term.number := by
  have hsign := term.head_ne_sign fun c hc => isDecimalDigit_of_isDigit (h c hc)
  have hread := @readInt64_eq_ok_iff term.digits
  rw [← number_eq_ofDigitChars h] at hread
  rw [count]
  split
  · rename_i value hvalue
    obtain ⟨-, hmax, rfl⟩ := (hread hne hsign).1 hvalue
    exact (min_eq_right hmax).symm
  · rename_i hfault
    apply (min_eq_left _).symm
    by_contra hsmall
    have hok := (hread hne hsign).2 ⟨h, le_of_lt (not_le.1 hsmall), rfl⟩
    rw [hfault] at hok
    simp at hok

/-- A count in digits of another script stands for the largest number, whatever it writes. -/
theorem count_of_not_isAscii {term : Term} (hne : term.digits ≠ [])
    (hdigits : ∀ c ∈ term.digits, isDecimalDigit c = true) (h : ¬ term.IsAscii) :
    term.count = int64Max := by
  rw [count]
  split
  · rename_i value hvalue
    exact absurd ((readInt64_eq_ok_iff hne (term.head_ne_sign hdigits)).1 hvalue).1 h
  · rfl

/-- A product that is cut off at the largest number is not longer than it should be. -/
theorem clampInt64_min_mul {count factor : ℤ} (hcount : 0 ≤ count) (hfactor : 0 ≤ factor) :
    clampInt64 (min int64Max count * factor) = min int64Max (count * factor) := by
  have hmax : 0 ≤ int64Max := by decide
  rw [clampInt64_of_nonneg (mul_nonneg (le_min hmax hcount) hfactor)]
  rcases le_total count int64Max with hle | hle
  · rw [min_eq_right hle]
  · rw [min_eq_left hle]
    rcases hfactor.eq_or_lt with rfl | hpos
    · simp
    · have hlong := le_mul_of_one_le_right hmax hpos
      rw [min_eq_left hlong, min_eq_left (hlong.trans (mul_le_mul_of_nonneg_right hle hfactor))]

theorem secs_eq_min {term : Term} (hne : term.digits ≠ []) (h : term.IsAscii) :
    term.secs = min int64Max (term.number * term.unit.secs) := by
  rw [secs, count_eq_min hne h,
    clampInt64_min_mul (Int.natCast_nonneg _) term.unit.secs_nonneg]

end Term

/-- Adding up and cutting off at every step is adding up and cutting off once. -/
theorem foldl_clampInt64 {terms : List Term} {parts : Term → ℤ}
    (h : ∀ term ∈ terms, 0 ≤ parts term ∧ term.secs = min int64Max (parts term)) {start : ℤ}
    (hstart : 0 ≤ start) :
    terms.foldl (fun total term => clampInt64 (total + term.secs)) (min int64Max start) =
      min int64Max (start + (terms.map parts).sum) := by
  induction terms generalizing start with
  | nil => simp
  | cons term terms ih =>
    obtain ⟨⟨hpart, hsecs⟩, hterms⟩ := List.forall_mem_cons.1 h
    have hmax : 0 ≤ int64Max := by decide
    have hstep : clampInt64 (min int64Max start + min int64Max (parts term)) =
        min int64Max (start + parts term) := by
      rw [clampInt64_of_nonneg (add_nonneg (le_min hmax hstart) (le_min hmax hpart))]
      omega
    rw [List.foldl_cons, hsecs, hstep, ih hterms (add_nonneg hstart hpart), List.map_cons,
      List.sum_cons, add_assoc]

theorem foldl_clampInt64_zero {terms : List Term} {parts : Term → ℤ}
    (h : ∀ term ∈ terms, 0 ≤ parts term ∧ term.secs = min int64Max (parts term)) :
    terms.foldl (fun total term => clampInt64 (total + term.secs)) 0 =
      min int64Max (terms.map parts).sum := by
  have hfold := foldl_clampInt64 h le_rfl
  rwa [min_eq_right (by decide : (0 : ℤ) ≤ int64Max), zero_add] at hfold

/-- The sum of the terms in microseconds, if all units have a fixed length. -/
def totalMicros? : List Term → Option ℤ
  | [] => some 0
  | term :: terms => do
    let micros ← term.unit.micros?
    return term.number * micros + (← totalMicros? terms)

def totalSecs (terms : List Term) : ℤ :=
  (terms.map fun term => (term.number : ℤ) * term.unit.secs).sum

theorem totalMicros_eq_totalSecs {terms : List Term} {length : ℤ}
    (h : ∀ term ∈ terms, term.unit.isSubSecond = false) (hlength : totalMicros? terms = some length) :
    length = totalSecs terms * 1000000 := by
  induction terms generalizing length with
  | nil =>
    rw [totalMicros?, Option.some.injEq] at hlength
    rw [← hlength]
    rfl
  | cons term terms ih =>
    obtain ⟨hunit, hterms⟩ := List.forall_mem_cons.1 h
    simp only [totalMicros?, bind, Option.bind_eq_some_iff, pure, Option.some.injEq] at hlength
    obtain ⟨micros, hmicros, rest, hrest, rfl⟩ := hlength
    rw [TimeUnit.micros_eq_secs hunit hmicros, ih hterms hrest, totalSecs, totalSecs, List.map_cons,
      List.sum_cons, add_mul, mul_assoc]

variable (interval : Interval)

def terms : List Term :=
  (readTerms? (words interval.text.toList)).getD []

/-- The exact length in microseconds. -/
def micros? : Option ℤ :=
  totalMicros? interval.terms

/-- The seconds of the terms that are not shorter than a second. -/
def wholeSecs : ℤ :=
  totalSecs interval.terms

theorem readTerms?_words :
    readTerms? (words interval.text.toList) = some interval.terms := by
  have hlist := interval.wellFormed
  rw [terms]
  unfold isTermList at hlist
  split at hlist
  · rename_i heq
    rw [heq, Option.getD_some]
  · simp at hlist

theorem spells_terms : Spells interval.text.toList interval.terms :=
  spells_of_readTerms? rfl interval.readTerms?_words

theorem scanTerms_text : scanTerms interval.text.toList = interval.terms :=
  interval.spells_terms.scanTerms_eq

theorem Spells.digits_ne_nil {s : List Char} {terms : List Term} (h : Spells s terms) :
    ∀ term ∈ terms, term.digits ≠ [] := by
  induction h with
  | blank => simp
  | term _ hne _ _ _ _ _ ih => exact List.forall_mem_cons.2 ⟨hne, ih⟩

variable {interval}

/-- The approximate length is the number of whole seconds, cut off at the largest number. -/
theorem approxSecs_eq_min (h : ∀ term ∈ interval.terms, term.IsAscii) :
    interval.approxSecs = min int64Max interval.wholeSecs := by
  have hparts : ∀ term ∈ interval.terms, 0 ≤ (term.number : ℤ) * term.unit.secs ∧
      term.secs = min int64Max (term.number * term.unit.secs) := by
    intro term hterm
    exact ⟨mul_nonneg (Int.natCast_nonneg _) term.unit.secs_nonneg,
      Term.secs_eq_min (interval.spells_terms.digits_ne_nil term hterm) (h term hterm)⟩
  rw [approxSecs, scanTerms_text, foldl_clampInt64_zero hparts, wholeSecs, totalSecs]

/-- The buckets of a view have the length that their name says. -/
theorem micros?_ofGranularity (granularity : Granularity) :
    (ofGranularity granularity).micros? =
      if granularity = .month ∨ granularity = .year then none
      else some (granularity.approxSecs * 1000000) := by
  cases granularity <;> decide +kernel

theorem eq_of_micros?_ofGranularity {granularity : Granularity} {width : ℤ}
    (h : (ofGranularity granularity).micros? = some width) :
    width = granularity.approxSecs * 1000000 := by
  rw [micros?_ofGranularity] at h
  split at h
  · simp at h
  · exact (Option.some.inj h).symm

end Interval

end TimeRollup
