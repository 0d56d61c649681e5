import Mathlib.Data.Nat.Digits.Defs
import Mathlib.Tactic.Ring
import TimeRollup.Text.Integer

/-!
# Integers that are read

Reading digits from left to right gives the number that they write, if it fits in 64 bits, and fails as
soon as a beginning of them does not: a number only moves away from zero as digits are appended.  So
exactly the decimal integers of 64 bits are read, with or without a sign.
-/

namespace TimeRollup.Text

/-- The number of the given sign and size. -/
def signed (negative : Bool) (size : ℕ) : ℤ :=
  if negative then -size else size

theorem appendDigit_signed (negative : Bool) (size : ℕ) (c : Char) :
    appendDigit negative (signed negative size) c =
      signed negative (10 * size + (c.toNat - '0'.toNat)) := by
  cases negative <;> simp only [appendDigit, signed, Bool.false_eq_true, if_true, if_false] <;>
    push_cast <;> ring

theorem le_ofDigitChars (digits : List Char) (size : ℕ) :
    size ≤ Nat.ofDigitChars 10 digits size := by
  induction digits generalizing size with
  | nil => exact Nat.le_of_eq Nat.ofDigitChars_nil.symm
  | cons c digits ih =>
    rw [Nat.ofDigitChars_cons]
    calc size ≤ 10 * size + (c.toNat - '0'.toNat) := by omega
      _ ≤ Nat.ofDigitChars 10 digits (10 * size + (c.toNat - '0'.toNat)) := ih _

def FitsInt64 (value : ℤ) : Prop :=
  int64Min ≤ value ∧ value ≤ int64Max

instance (value : ℤ) : Decidable (FitsInt64 value) :=
  inferInstanceAs (Decidable (_ ∧ _))

theorem fitsInt64_of_signed_le {negative : Bool} {smaller size : ℕ} (hle : smaller ≤ size)
    (h : FitsInt64 (signed negative size)) : FitsInt64 (signed negative smaller) := by
  unfold FitsInt64 int64Min int64Max at *
  cases negative <;> simp only [signed, Bool.false_eq_true, if_true, if_false] at * <;> omega

theorem readDigits_cons_of_isDigit {c : Char} (h : c.isDigit = true) (negative : Bool) (value : ℤ)
    (rest : List Char) :
    readDigits negative value (c :: rest) =
      if FitsInt64 (appendDigit negative value c) then
        readDigits negative (appendDigit negative value c) rest
      else .error (if appendDigit negative value c < int64Min then .tooSmall else .tooLarge) := by
  rw [readDigits, if_neg (by simp [h])]
  unfold FitsInt64
  split_ifs <;> first | rfl | omega

theorem readDigits_signed_eq_ok_iff {negative : Bool} {size : ℕ} {digits : List Char} {value : ℤ}
    (hfits : FitsInt64 (signed negative size)) :
    readDigits negative (signed negative size) digits = .ok value ↔
      (∀ c ∈ digits, c.isDigit = true) ∧ FitsInt64 value ∧
        value = signed negative (Nat.ofDigitChars 10 digits size) := by
  induction digits generalizing size with
  | nil =>
    rw [readDigits, Nat.ofDigitChars_nil, Except.ok.injEq]
    constructor
    · rintro rfl
      exact ⟨by simp, hfits, rfl⟩
    · rintro ⟨-, -, hvalue⟩
      exact hvalue.symm
  | cons c digits ih =>
    rw [Nat.ofDigitChars_cons, List.forall_mem_cons]
    cases hdigit : c.isDigit with
    | false => simp [readDigits, hdigit]
    | true =>
      rw [readDigits_cons_of_isDigit hdigit, appendDigit_signed]
      split
      · rename_i hnext
        rw [ih hnext]
        simp
      · -- what all the digits write lies even farther out
        rename_i hnext
        have hlost : ¬ FitsInt64 (signed negative
            (Nat.ofDigitChars 10 digits (10 * size + (c.toNat - '0'.toNat)))) :=
          mt (fitsInt64_of_signed_le (le_ofDigitChars digits _)) hnext
        constructor
        · simp
        · rintro ⟨-, hvalue, rfl⟩
          exact absurd hvalue hlost

/-- The digits behind a sign are read as the number that they write, if it fits. -/
theorem readDigits_eq_ok_iff {negative : Bool} {digits : List Char} {value : ℤ} :
    readDigits negative 0 digits = .ok value ↔
      (∀ c ∈ digits, c.isDigit = true) ∧ FitsInt64 value ∧
        value = signed negative (Nat.ofDigitChars 10 digits 0) := by
  have hzero : signed negative 0 = 0 := by cases negative <;> rfl
  have hfits : FitsInt64 (signed negative 0) := by
    rw [hzero]
    decide
  rw [← readDigits_signed_eq_ok_iff hfits, hzero]

theorem readInt64_of_head_ne {digits : List Char} (hne : digits ≠ [])
    (hsign : ∀ c ∈ digits.head?, c ≠ '+' ∧ c ≠ '-') :
    readInt64 digits = readDigits false 0 digits := by
  unfold readInt64
  split
  · exact absurd rfl hne
  · rfl
  · exact absurd rfl (hsign '+' rfl).1
  · exact absurd rfl (hsign '-' rfl).2
  · rfl

/-- Without a sign, only digits are read, and as the number that they write. -/
theorem readInt64_eq_ok_iff {digits : List Char} {value : ℤ} (hne : digits ≠ [])
    (hsign : ∀ c ∈ digits.head?, c ≠ '+' ∧ c ≠ '-') :
    readInt64 digits = .ok value ↔ (∀ c ∈ digits, c.isDigit = true) ∧
      value ≤ int64Max ∧ value = Nat.ofDigitChars 10 digits 0 := by
  rw [readInt64_of_head_ne hne hsign, readDigits_eq_ok_iff]
  refine and_congr_right fun _ => ?_
  constructor
  · rintro ⟨hfits, hvalue⟩
    exact ⟨hfits.2, hvalue⟩
  · rintro ⟨hmax, hvalue⟩
    refine ⟨⟨?_, hmax⟩, hvalue⟩
    rw [hvalue]
    exact le_trans (by decide) (Int.natCast_nonneg _)

/-- The text is the decimal digits of a number, perhaps with a sign in front. -/
inductive IsDecimal : List Char → ℤ → Prop
  | unsigned {digits : List Char} (hne : digits ≠ []) (hdigits : ∀ c ∈ digits, c.isDigit = true) :
      IsDecimal digits (Nat.ofDigitChars 10 digits 0)
  | positive {digits : List Char} (hne : digits ≠ []) (hdigits : ∀ c ∈ digits, c.isDigit = true) :
      IsDecimal ('+' :: digits) (Nat.ofDigitChars 10 digits 0)
  | negative {digits : List Char} (hne : digits ≠ []) (hdigits : ∀ c ∈ digits, c.isDigit = true) :
      IsDecimal ('-' :: digits) (-Nat.ofDigitChars 10 digits 0)

/-- What is read is a decimal integer that fits, and every such integer is read. -/
theorem readInt64_eq_ok_iff_isDecimal {s : List Char} {value : ℤ} :
    readInt64 s = .ok value ↔ IsDecimal s value ∧ FitsInt64 value := by
  constructor
  · intro h
    unfold readInt64 at h
    split at h
    · simp at h
    · obtain ⟨hdigits, hfits, rfl⟩ := readDigits_eq_ok_iff.1 h
      exact ⟨.unsigned (List.cons_ne_nil _ _) hdigits, hfits⟩
    · rename_i hne
      obtain ⟨hdigits, hfits, rfl⟩ := readDigits_eq_ok_iff.1 h
      exact ⟨.positive hne hdigits, hfits⟩
    · rename_i hne
      obtain ⟨hdigits, hfits, rfl⟩ := readDigits_eq_ok_iff.1 h
      exact ⟨.negative hne hdigits, hfits⟩
    · rename_i hne _ _ _
      obtain ⟨hdigits, hfits, rfl⟩ := readDigits_eq_ok_iff.1 h
      exact ⟨.unsigned hne hdigits, hfits⟩
  · rintro ⟨hdecimal, hfits⟩
    cases hdecimal with
    | unsigned hne hdigits =>
      have hsign : ∀ c ∈ s.head?, c ≠ '+' ∧ c ≠ '-' := by
        intro c hc
        have hdigit := hdigits c (List.mem_of_mem_head? hc)
        constructor <;> rintro rfl <;> exact absurd hdigit (by decide)
      exact (readInt64_eq_ok_iff hne hsign).2 ⟨hdigits, hfits.2, rfl⟩
    | positive hne hdigits =>
      obtain ⟨c, digits, rfl⟩ := List.exists_cons_of_ne_nil hne
      exact readDigits_eq_ok_iff.2 ⟨hdigits, hfits, rfl⟩
    | negative hne hdigits =>
      obtain ⟨c, digits, rfl⟩ := List.exists_cons_of_ne_nil hne
      exact readDigits_eq_ok_iff.2 ⟨hdigits, hfits, rfl⟩

/-- A product that is left out is too large, or too small, and no other is. -/
theorem mulInt64?_eq_some_iff {left right product : ℤ} :
    mulInt64? left right = some product ↔ FitsInt64 (left * right) ∧ product = left * right := by
  rw [mulInt64?, Option.ite_none_right_eq_some, Option.some.injEq, eq_comm (a := product)]
  rfl

theorem clampInt64_of_nonneg {value : ℤ} (h : 0 ≤ value) : clampInt64 value = min int64Max value := by
  unfold clampInt64 int64Min int64Max
  split
  · omega
  · split <;> omega

end TimeRollup.Text
