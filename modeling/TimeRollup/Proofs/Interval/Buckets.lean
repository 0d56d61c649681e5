import Mathlib.Data.Rat.Floor
import Mathlib.Tactic.FieldSimp
import TimeRollup.Proofs.Chain.Extension
import TimeRollup.Proofs.Interval.Length

/-!
# Ad-hoc buckets

Buckets of one width agree with the buckets of another width that they are cut into exactly if the one is
a whole multiple of the other.  An ad-hoc rollup does not ask for that: it refuses an interval exactly if
the interval, without its terms below a second, is shorter than the buckets of the view.
-/

namespace TimeRollup

open TimeRollup.Text

/-! ## Buckets of two widths -/

/-- The start of the bucket that an instant falls into, buckets being counted from the instant zero. -/
def bucketStart (width : ℤ) (instant : ℚ) : ℚ :=
  ⌊instant / width⌋ * width

theorem bucketStart_le {width : ℤ} (hwidth : 0 < width) (instant : ℚ) :
    bucketStart width instant ≤ instant := by
  have hpos : (0 : ℚ) < width := Int.cast_pos.2 hwidth
  calc (⌊instant / width⌋ : ℚ) * width ≤ instant / width * width :=
        mul_le_mul_of_nonneg_right (Int.floor_le _) hpos.le
    _ = instant := div_mul_cancel₀ instant hpos.ne'

theorem bucketStart_self {width : ℤ} (hwidth : 0 < width) : bucketStart width width = width := by
  have hne : (width : ℚ) ≠ 0 := (Int.cast_pos.2 hwidth).ne'
  rw [bucketStart, div_self hne, Int.floor_one, Int.cast_one, one_mul]

theorem bucketStart_bucketStart {width factor : ℤ} (hwidth : 0 < width) (hfactor : 0 < factor)
    (instant : ℚ) :
    bucketStart (width * factor) (bucketStart width instant) =
      bucketStart (width * factor) instant := by
  have hne : (width : ℚ) ≠ 0 := (Int.cast_pos.2 hwidth).ne'
  have hcoarse : (⌊instant / width⌋ : ℚ) * width / ((width * factor : ℤ) : ℚ) =
      (⌊instant / width⌋ : ℚ) / factor := by
    push_cast
    field_simp
  have hfine : instant / ((width * factor : ℤ) : ℚ) = instant / width / factor := by
    push_cast
    rw [div_div]
  have hfloor : ⌊(⌊instant / width⌋ : ℚ) / factor⌋ = ⌊instant / width / factor⌋ := by
    rw [Int.floor_div_cast_of_nonneg hfactor.le, Int.floor_div_cast_of_nonneg hfactor.le,
      Int.floor_intCast]
  rw [bucketStart, bucketStart, bucketStart, hcoarse, hfine, hfloor]

/-- Sorting the starts of buckets into buckets is sorting the instants themselves exactly if the new
width is a multiple of the old one. -/
theorem forall_bucketStart_iff_dvd {width length : ℤ} (hwidth : 0 < width) (hlength : 0 < length) :
    (∀ instant, bucketStart length (bucketStart width instant) = bucketStart length instant) ↔
      width ∣ length := by
  constructor
  · intro h
    -- a bucket that does not divide the length lies across its first multiple
    have hstart : (length : ℚ) ≤ bucketStart width length := by
      calc (length : ℚ) = bucketStart length (bucketStart width length) := by
            rw [h, bucketStart_self hlength]
        _ ≤ bucketStart width length := bucketStart_le hlength _
    have hequal : (⌊(length : ℚ) / width⌋ : ℚ) * width = length :=
      le_antisymm (bucketStart_le hwidth _) hstart
    exact ⟨⌊(length : ℚ) / width⌋, by rw [mul_comm]; exact_mod_cast hequal.symm⟩
  · rintro ⟨factor, rfl⟩ instant
    exact bucketStart_bucketStart hwidth ((mul_pos_iff_of_pos_left hwidth).1 hlength) instant

/-! ## The check of the width -/

namespace ChainBuilder

variable {builder : ChainBuilder}

/-- The error about an interval that is shorter than the buckets of a view. -/
def finerWidth (view : View) (interval : Interval) : RollupError :=
  .configuration ("interval '" ++ interval.text ++ "' is finer than the " ++
    view.granularity.name ++ " buckets of " ++ view.tableName)

theorem error_of_result_rewriteItems {name : String} {items : List SelectItem} {error : RollupError}
    (h : (builder.rewriteItems name items).result = .error error) :
    ∃ warning : RewriteWarning, error = warning.toError := by
  obtain ⟨table, strict⟩ := builder
  cases strict with
  | false => simp [rewriteItems_lenient] at h
  | true =>
    rw [rewriteItems_strict, rewriteItems_lenient] at h
    cases hwarnings : table.forwardWarnings name items with
    | nil =>
      rw [Outcome.promote_of_nil (by simpa using hwarnings)] at h
      simp at h
    | cons warning more =>
      rw [Outcome.promote_of_cons (by simpa using hwarnings), Except.error.injEq] at h
      exact ⟨warning, h.symm⟩

theorem error_of_checkGroupKeys {groupKeys : List String} {view : View} {error : RollupError}
    (h : checkGroupKeys groupKeys view = .error error) :
    ∃ column, error = .missingGroupColumn column view.tableName := by
  unfold checkGroupKeys at h
  split at h
  · exact ⟨_, (Except.error.inj h).symm⟩
  · simp at h

/-- The check of the width is the only one that blames it. -/
theorem result_adHocRollup_eq_finerWidth_iff {view : View} {interval : Interval} :
    (builder.adHocRollup view interval).result = .error (finerWidth view interval) ↔
      interval.approxSecs < view.granularity.approxSecs := by
  unfold adHocRollup
  split
  · rename_i hshort
    simp [Outcome.fail, finerWidth, hshort]
  · rename_i hlong
    simp only [hlong, iff_false, Outcome.result_bind, Outcome.ofExcept]
    cases hitems : (builder.rewriteItems view.tableName view.selectItems).result with
    | error error =>
      obtain ⟨warning, rfl⟩ := error_of_result_rewriteItems hitems
      simp [bind, Except.bind, RewriteWarning.toError, finerWidth]
    | ok rewritten =>
      cases hkeys : checkGroupKeys view.groupKeys view with
      | error error =>
        obtain ⟨column, rfl⟩ := error_of_checkGroupKeys hkeys
        simp [bind, Except.bind, finerWidth]
      | ok => simp [bind, Except.bind]

theorem accepts_iff_of_isAscii {view : View} {interval : Interval} {width : ℤ}
    (hwidth : (Interval.ofGranularity view.granularity).micros? = some width)
    (hascii : ∀ term ∈ interval.terms, term.IsAscii) :
    (builder.adHocRollup view interval).result ≠ .error (finerWidth view interval) ↔
      width ≤ interval.wholeSecs * 1000000 := by
  obtain rfl := Interval.eq_of_micros?_ofGranularity hwidth
  have hmax : view.granularity.approxSecs ≤ int64Max := by
    cases view.granularity <;> decide
  rw [Ne, result_adHocRollup_eq_finerWidth_iff, Interval.approxSecs_eq_min hascii, not_lt,
    le_min_iff, mul_le_mul_iff_left₀ (by decide)]
  exact and_iff_right hmax

theorem width_pos {granularity : Granularity} {width : ℤ}
    (hwidth : (Interval.ofGranularity granularity).micros? = some width) : 0 < width := by
  obtain rfl := Interval.eq_of_micros?_ofGranularity hwidth
  cases granularity <;> decide

/-- An ad-hoc rollup over buckets of fixed width accepts an interval of fixed length if its terms from
the second up reach the width.  Its buckets agree with the instants themselves only if the length is a
multiple of the width. -/
theorem adHocRollup_accepts_iff_nests_iff {view : View} {interval : Interval} {width length : ℤ}
    (hwidth : (Interval.ofGranularity view.granularity).micros? = some width)
    (hlength : interval.micros? = some length) :
    ((∀ term ∈ interval.terms, term.IsAscii) →
      ((builder.adHocRollup view interval).result ≠ .error (finerWidth view interval) ↔
        width ≤ interval.wholeSecs * 1000000) ∧
      ((∀ term ∈ interval.terms, term.unit.isSubSecond = false) →
        ((builder.adHocRollup view interval).result ≠ .error (finerWidth view interval) ↔
          width ≤ length))) ∧
      ((0 < length ∧ ∀ instant,
          bucketStart length (bucketStart width instant) = bucketStart length instant) ↔
        0 < length ∧ width ∣ length) := by
  constructor
  · intro hascii
    have haccepts := @accepts_iff_of_isAscii builder _ _ _ hwidth hascii
    refine ⟨haccepts, fun hwhole => ?_⟩
    rw [haccepts, Interval.wholeSecs, ← Interval.totalMicros_eq_totalSecs hwhole hlength]
  · exact and_congr_right fun hpos => forall_bucketStart_iff_dvd (width_pos hwidth) hpos

/-- An hour and a half, as it is written. -/
def ninetyMinutes : Interval :=
  ⟨"90 minutes", by decide +kernel⟩

def thousandMillis : Interval :=
  ⟨"1000 milliseconds", by decide +kernel⟩

theorem adHocRollup_accepts_iff_nests_iff_ninetyMinutes :
    Interval.ofText "90 minutes" = .ok ninetyMinutes ∧
      (Interval.ofGranularity (finestView trades .hour).granularity).micros? = some 3600000000 ∧
      ninetyMinutes.micros? = some 5400000000 ∧
      ((∀ term ∈ ninetyMinutes.terms, term.IsAscii) →
        ((sketchBuilder.adHocRollup (finestView trades .hour) ninetyMinutes).result ≠
            .error (finerWidth (finestView trades .hour) ninetyMinutes) ↔
          3600000000 ≤ ninetyMinutes.wholeSecs * 1000000) ∧
        ((∀ term ∈ ninetyMinutes.terms, term.unit.isSubSecond = false) →
          ((sketchBuilder.adHocRollup (finestView trades .hour) ninetyMinutes).result ≠
              .error (finerWidth (finestView trades .hour) ninetyMinutes) ↔
            (3600000000 : ℤ) ≤ 5400000000))) ∧
      (∀ term ∈ ninetyMinutes.terms, term.IsAscii) ∧
      (∀ term ∈ ninetyMinutes.terms, term.unit.isSubSecond = false) ∧
      (((0 : ℤ) < 5400000000 ∧ ∀ instant,
          bucketStart 5400000000 (bucketStart 3600000000 instant) =
            bucketStart 5400000000 instant) ↔
        (0 : ℤ) < 5400000000 ∧ (3600000000 : ℤ) ∣ 5400000000) := by
  have hwidth : (Interval.ofGranularity (finestView trades .hour).granularity).micros? =
      some 3600000000 := by decide +kernel
  have hlength : ninetyMinutes.micros? = some 5400000000 := by decide +kernel
  have hcheck := @adHocRollup_accepts_iff_nests_iff sketchBuilder _ _ _ _ hwidth hlength
  exact ⟨by decide +kernel, hwidth, hlength, hcheck.1, by decide +kernel, by decide +kernel,
    hcheck.2⟩

/-- The check neither asks for a multiple nor accepts every multiple: an hour and a half is accepted over
hours, and a thousand milliseconds are refused over seconds. -/
theorem not_adHocRollup_accepts_iff_dvd :
    (¬ ∀ (builder : ChainBuilder) (view : View) (interval : Interval) (width length : ℤ),
      (Interval.ofGranularity view.granularity).micros? = some width →
      interval.micros? = some length →
      (builder.adHocRollup view interval).result ≠ .error (finerWidth view interval) →
        0 < length ∧ width ∣ length) ∧
    ¬ ∀ (builder : ChainBuilder) (view : View) (interval : Interval) (width length : ℤ),
      (Interval.ofGranularity view.granularity).micros? = some width →
      interval.micros? = some length →
      0 < length ∧ width ∣ length →
        (builder.adHocRollup view interval).result ≠ .error (finerWidth view interval) := by
  constructor
  · intro h
    have hdvd := h sketchBuilder (finestView trades .hour) ninetyMinutes 3600000000 5400000000
      (by decide +kernel) (by decide +kernel) (by decide +kernel)
    exact absurd hdvd.2 (by decide)
  · intro h
    have haccepted := h sketchBuilder (finestView trades .second) thousandMillis 1000000 1000000
      (by decide +kernel) (by decide +kernel) (by decide)
    exact absurd (by decide +kernel) haccepted

end ChainBuilder

end TimeRollup
