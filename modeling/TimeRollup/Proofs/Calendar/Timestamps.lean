import Mathlib.Data.List.TakeWhile
import Mathlib.Tactic.Ring
import TimeRollup.Calendar.Rfc3339
import TimeRollup.Proofs.Calendar.Dates

/-!
# Timestamps read back

A timestamp that is written without the part of a second reads back as the instant at the start of that
second.  The reader takes each field by its width, so a field of fixed width is followed by whatever
comes next, and only the year looks for the end of its digits.  That is said of the instants that a clock
can show, and a timestamp that is read is always one of them.
-/

namespace TimeRollup.Calendar

/-! ## Numbers -/

theorem toList_padded (width number : Nat) :
    (padded width number).toList =
      List.replicate (width - (Nat.toDigits 10 number).length) '0' ++ Nat.toDigits 10 number := by
  simp [padded]

theorem isDigit_of_mem_padded {width number : Nat} {c : Char}
    (h : c ∈ (padded width number).toList) : c.isDigit = true := by
  rw [toList_padded, List.mem_append] at h
  rcases h with h | h
  · rw [List.eq_of_mem_replicate h]
    decide
  · exact Nat.isDigit_of_mem_toDigits (by decide) (by decide) h

theorem length_padded (width number : Nat) :
    (padded width number).toList.length = max width (Nat.toDigits 10 number).length := by
  rw [toList_padded, List.length_append, List.length_replicate]
  omega

theorem length_padded_of_lt {width number : Nat} (hwidth : 0 < width) (h : number < 10 ^ width) :
    (padded width number).toList.length = width := by
  rw [length_padded, max_eq_left ((Nat.length_toDigits_le_iff (by decide) hwidth).2 h)]

/-- Zeros in front do not change a number. -/
theorem ofDigitChars_padded (width number : Nat) :
    Nat.ofDigitChars 10 (padded width number).toList 0 = number := by
  rw [toList_padded, Nat.ofDigitChars_append, Nat.ofDigitChars_replicate_zero, Nat.mul_zero,
    Nat.ofDigitChars_ten_toDigits]

theorem foldl_eq_ofDigitChars (digits : List Char) :
    digits.foldl (fun value c => value * 10 + (c.toNat - '0'.toNat)) 0 =
      Nat.ofDigitChars 10 digits 0 := by
  rw [Nat.ofDigitChars_eq_foldl]
  congr 1
  funext value c
  rw [Nat.mul_comm]

theorem takeNumber?_append {digits : List Char} (h : ∀ c ∈ digits, c.isDigit = true)
    (rest : List Char) :
    takeNumber? digits.length (digits ++ rest) = some (Nat.ofDigitChars 10 digits 0, rest) := by
  rw [takeNumber?, List.take_left, List.drop_left, if_pos ⟨rfl, List.all_eq_true.2 h⟩,
    foldl_eq_ofDigitChars]

theorem takeNumber?_padded {width number : Nat} (hwidth : 0 < width) (h : number < 10 ^ width)
    (rest : List Char) :
    takeNumber? width ((padded width number).toList ++ rest) = some (number, rest) := by
  have htake := takeNumber?_append (fun c => @isDigit_of_mem_padded width number c) rest
  rwa [length_padded_of_lt hwidth h, ofDigitChars_padded] at htake

@[simp]
theorem takeChar?_cons (c : Char) (rest : List Char) : takeChar? c (c :: rest) = some rest := by
  simp [takeChar?]

/-! ## Dates -/

/-- The digits of a year that has a sign are counted by where they end. -/
theorem takeNumber?_signed (number : Nat) (rest : List Char) :
    takeNumber? (max 4 (((padded 4 number).toList ++ '-' :: rest).takeWhile Char.isDigit).length)
        ((padded 4 number).toList ++ '-' :: rest) = some (number, '-' :: rest) := by
  have hdigits : ((padded 4 number).toList ++ '-' :: rest).takeWhile Char.isDigit =
      (padded 4 number).toList := by
    rw [List.takeWhile_append_of_pos fun c => isDigit_of_mem_padded,
      List.takeWhile_cons_of_neg (by decide), List.append_nil]
  have hlength : 4 ≤ (padded 4 number).toList.length := by
    rw [length_padded]
    exact le_max_left _ _
  rw [hdigits, max_eq_right hlength,
    takeNumber?_append (fun c => @isDigit_of_mem_padded 4 number c), ofDigitChars_padded]

/-- A text that starts with a digit has no sign. -/
theorem takeYear?_of_isDigit {c : Char} (hdigit : c.isDigit = true) (rest : List Char) :
    Instant.takeYear? (c :: rest) = (takeNumber? 4 (c :: rest)).map fun (year, s) => (year, s) := by
  unfold Instant.takeYear?
  split
  · rename_i heq
    rw [(List.cons.inj heq).1] at hdigit
    exact absurd hdigit (by decide)
  · rename_i heq
    rw [(List.cons.inj heq).1] at hdigit
    exact absurd hdigit (by decide)
  · rfl

theorem takeYear?_yearText (year : Int) (rest : List Char) :
    Instant.takeYear? ((yearText year).toList ++ '-' :: rest) = some (year, '-' :: rest) := by
  unfold yearText
  split
  · rename_i hyear
    have htake := takeNumber?_padded (by decide) (by omega : year.toNat < 10 ^ 4) ('-' :: rest)
    have hcast : (year.toNat : Int) = year := Int.toNat_of_nonneg hyear.1
    cases hdigits : (padded 4 year.toNat).toList with
    | nil => simp [hdigits, takeNumber?] at htake
    | cons c digits =>
      have hdigit : c.isDigit = true := isDigit_of_mem_padded (hdigits ▸ List.mem_cons_self)
      rw [hdigits] at htake
      rw [List.cons_append, takeYear?_of_isDigit hdigit, ← List.cons_append, htake]
      simp only [Option.map_some, hcast]
  · split
    · have hnegative : -(year.natAbs : Int) = year := by omega
      simp only [Instant.takeYear?, String.toList_append, String.reduceToList, List.cons_append,
        List.nil_append, takeNumber?_signed, Option.map_some, hnegative]
    · have hpositive : (year.natAbs : Int) = year := by omega
      simp only [Instant.takeYear?, String.toList_append, String.reduceToList, List.cons_append,
        List.nil_append, takeNumber?_signed, Option.map_some, hpositive]

theorem takeDateAfterYear?_padded {date : Date} (h : date.isValid = true) (rest : List Char) :
    takeDateAfterYear? date.year
        ('-' :: ((padded 2 date.month).toList ++ '-' :: ((padded 2 date.day).toList ++ rest))) =
      some (date, rest) := by
  have hmonth : date.month < 10 ^ 2 := Nat.lt_of_le_of_lt (Date.month_le_of_isValid h) (by decide)
  have hday : date.day < 10 ^ 2 := Nat.lt_of_le_of_lt (Date.day_le_of_isValid h) (by decide)
  simp [takeDateAfterYear?, takeNumber?_padded (by decide) hmonth,
    takeNumber?_padded (by decide) hday, h]

/-! ## Times of day -/

/-- A time of day reads back as its second, where second 60 is the leap second after second 59. -/
theorem takeClock?_padded {hour minute second : Nat} (hhour : hour ≤ 23) (hminute : minute ≤ 59)
    (hsecond : second ≤ 60) (rest : List Char) :
    takeClock? ((padded 2 hour).toList ++ ':' ::
        ((padded 2 minute).toList ++ ':' :: ((padded 2 second).toList ++ rest))) =
      some (hour * 3600 + minute * 60 + min second 59,
        if second = 60 then nanosPerSecond else 0, rest) := by
  have hhour' : hour < 10 ^ 2 := by omega
  have hminute' : minute < 10 ^ 2 := by omega
  have hsecond' : second < 10 ^ 2 := by omega
  simp only [takeClock?, takeNumber?_padded (by decide) hhour', takeNumber?_padded (by decide) hminute',
    takeNumber?_padded (by decide) hsecond', takeChar?_cons, Option.bind_eq_bind, Option.bind_some]
  rw [if_neg (by omega)]
  split
  · rename_i hleap
    simp [hleap]
  · have hmin : min second 59 = second := by omega
    rw [hmin]

namespace Instant

/-- What a clock can show: nanoseconds that fill no second, or else those of a leap second, which comes
after the last second of a minute. -/
def IsProper (instant : Instant) : Prop :=
  instant.nanos < nanosPerSecond ∨
    instant.nanos < 2 * nanosPerSecond ∧ instant.seconds % 60 = 59

instance (instant : Instant) : Decidable instant.IsProper :=
  inferInstanceAs (Decidable (_ ∨ _ ∧ _))

/-- The start of the second in which the instant lies. -/
def secondStart (instant : Instant) : Instant :=
  ⟨instant.seconds, instant.nanos / nanosPerSecond * nanosPerSecond⟩

theorem secondOfDay_lt (instant : Instant) : instant.secondOfDay < 86400 := by
  simp only [secondOfDay, secondsPerDay]
  omega

theorem IsProper.nanos_div {instant : Instant} (h : instant.IsProper) :
    instant.nanos / nanosPerSecond = 0 ∨
      instant.nanos / nanosPerSecond = 1 ∧ instant.secondOfDay % 60 = 59 := by
  simp only [IsProper, nanosPerSecond, secondOfDay, secondsPerDay] at *
  omega

theorem takeClock?_clockText {instant : Instant} (h : instant.IsProper) (rest : List Char) :
    takeClock? (instant.clockText.toList ++ rest) =
      some (instant.secondOfDay, instant.secondStart.nanos, rest) := by
  have hsecond := instant.secondOfDay_lt
  have hnanos := h.nanos_div
  have hclock : instant.clockText.toList ++ rest =
      (padded 2 (instant.secondOfDay / 3600)).toList ++ ':' ::
        ((padded 2 (instant.secondOfDay / 60 % 60)).toList ++ ':' ::
          ((padded 2 (instant.secondOfDay % 60 + instant.nanos / nanosPerSecond)).toList ++ rest)) := by
    simp [clockText]
  rw [hclock, takeClock?_padded (by omega) (by omega) (by omega)]
  have hsum : instant.secondOfDay / 3600 * 3600 + instant.secondOfDay / 60 % 60 * 60 +
      min (instant.secondOfDay % 60 + instant.nanos / nanosPerSecond) 59 = instant.secondOfDay := by
    omega
  rw [hsum, secondStart]
  rcases hnanos with hnanos | ⟨hnanos, hlast⟩
  · rw [hnanos, if_neg (by omega), Nat.zero_mul]
  · rw [hnanos, if_pos (by omega), Nat.one_mul]

/-- A timestamp reads back as the start of the second that it was written for. -/
theorem ofLiteral?_secondsText {instant : Instant} (h : instant.IsProper) :
    ofLiteral? instant.secondsText.toList = some instant.secondStart := by
  have hvalid : instant.date.isValid = true := Date.isValid_ofDays _
  have hdays : instant.date.toDays = instant.seconds / secondsPerDay := Date.toDays_ofDays _
  have htext : instant.secondsText.toList =
      (yearText instant.date.year).toList ++ '-' ::
        ((padded 2 instant.date.month).toList ++ '-' :: ((padded 2 instant.date.day).toList ++
          'T' :: (instant.clockText.toList ++ ['Z']))) := by
    simp [secondsText, Date.text]
  have hseconds : instant.seconds / secondsPerDay * secondsPerDay + instant.secondOfDay - 0 =
      instant.seconds := by
    simp only [secondOfDay, secondsPerDay]
    omega
  simp only [ofLiteral?, htext, takeYear?_yearText, takeDateAfterYear?_padded hvalid,
    takeChar?_cons, takeClock?_clockText h, Option.bind_eq_bind, Option.bind_some,
    List.isEmpty_nil, if_true, ofParts, hdays, hseconds]
  rfl

theorem isDigit_or_mem_of_mem_yearText {year : Int} {c : Char} (h : c ∈ (yearText year).toList) :
    c.isDigit = true ∨ c = '-' ∨ c = '+' := by
  unfold yearText at h
  split at h
  · exact .inl (isDigit_of_mem_padded h)
  · split at h
    all_goals
      simp only [String.toList_append, String.reduceToList, List.cons_append, List.nil_append,
        List.mem_cons] at h
      rcases h with rfl | h
      · simp
      · exact .inl (isDigit_of_mem_padded h)

/-- A timestamp has nothing in it that ends a literal. -/
theorem quote_notMem_secondsText (instant : Instant) : '\'' ∉ instant.secondsText.toList := by
  have hyear : '\'' ∉ (yearText instant.date.year).toList := fun h => by
    have := isDigit_or_mem_of_mem_yearText h
    revert this
    decide
  have hnumber : ∀ width number, '\'' ∉ (padded width number).toList := fun width number h => by
    have := isDigit_of_mem_padded h
    revert this
    decide
  simp [secondsText, Date.text, clockText, hyear, hnumber]

end Instant

/-! ## Timestamps that are read -/

theorem ofDigitChars_lt {digits : List Char} (h : ∀ c ∈ digits, c.isDigit = true) (value : Nat) :
    Nat.ofDigitChars 10 digits value < (value + 1) * 10 ^ digits.length := by
  induction digits generalizing value with
  | nil => simp
  | cons c digits ih =>
    have hc := (Char.isDigit_iff_toNat.1 (h c List.mem_cons_self)).2
    have hzero : '0'.toNat = 48 := rfl
    have hnine : '9'.toNat = 57 := rfl
    rw [Nat.ofDigitChars_cons]
    calc Nat.ofDigitChars 10 digits (10 * value + (c.toNat - '0'.toNat))
      _ < (10 * value + (c.toNat - '0'.toNat) + 1) * 10 ^ digits.length :=
        ih (fun d hd => h d (List.mem_cons_of_mem _ hd)) _
      _ ≤ (value + 1) * 10 * 10 ^ digits.length := Nat.mul_le_mul_right _ (by omega)
      _ = (value + 1) * 10 ^ (c :: digits).length := by rw [List.length_cons]; ring

theorem takeFraction?_lt {s rest : List Char} {nanos : Nat}
    (h : takeFraction? s = some (nanos, rest)) : nanos < nanosPerSecond := by
  unfold takeFraction? at h
  split at h
  · rename_i after
    simp only [Option.ite_none_left_eq_some, Option.some.injEq, Prod.mk.injEq] at h
    obtain ⟨-, rfl, -⟩ := h
    generalize hdigits : (after.takeWhile Char.isDigit).take 9 = digits
    have hlength : digits.length ≤ 9 := hdigits ▸ List.length_take_le _ _
    have hdigit : ∀ c ∈ digits, c.isDigit = true := fun c hc => by
      rw [← hdigits] at hc
      exact List.mem_takeWhile_imp (List.mem_of_mem_take hc)
    have hvalue := ofDigitChars_lt hdigit 0
    rw [Nat.zero_add, Nat.one_mul] at hvalue
    calc digits.foldl (fun value c => value * 10 + (c.toNat - '0'.toNat)) 0 * 10 ^ (9 - digits.length)
      _ < 10 ^ digits.length * 10 ^ (9 - digits.length) := by
        rw [foldl_eq_ofDigitChars]
        exact Nat.mul_lt_mul_of_pos_right hvalue (by positivity)
      _ = nanosPerSecond := by
        rw [← Nat.pow_add, Nat.add_sub_cancel' hlength]
        rfl
  · simp only [Option.some.injEq, Prod.mk.injEq] at h
    rw [← h.1]
    decide

/-- Offsets are whole minutes. -/
theorem takeOffset?_emod {s rest : List Char} {offset : Int}
    (h : takeOffset? s = some (offset, rest)) : offset % 60 = 0 := by
  unfold takeOffset? at h
  simp only [Option.bind_eq_bind] at h
  split at h
  case h_1 | h_2 =>
    simp only [Option.some.injEq, Prod.mk.injEq] at h
    omega
  case h_3 | h_4 | h_5 =>
    simp only [Option.map_eq_some_iff, Option.bind_eq_some_iff, Option.ite_none_left_eq_some,
      Prod.exists, Option.some.injEq, Prod.mk.injEq] at h
    grind
  case h_6 => simp at h

theorem takeClock?_leap {s rest : List Char} {second leap : Nat}
    (h : takeClock? s = some (second, leap, rest)) :
    leap = 0 ∨ leap = nanosPerSecond ∧ second % 60 = 59 := by
  simp only [takeClock?, Option.bind_eq_bind, Option.bind_eq_some_iff, Prod.exists,
    Option.ite_none_left_eq_some] at h
  obtain ⟨hour, _, -, _, -, minute, _, -, _, -, last, _, -, -, h⟩ := h
  split at h <;> simp only [Option.some.injEq, Prod.mk.injEq] at h
  · right
    omega
  · left
    omega

namespace Instant

theorem isProper_ofParts {date : Date} {second leap nanos : Nat} {offset : Int}
    (hleap : leap = 0 ∨ leap = nanosPerSecond ∧ second % 60 = 59) (hnanos : nanos < nanosPerSecond)
    (hoffset : offset % 60 = 0) : (ofParts date second (leap + nanos) offset).IsProper := by
  rcases hleap with rfl | ⟨rfl, hlast⟩
  · left
    simpa [ofParts] using hnanos
  · right
    simp only [ofParts, secondsPerDay]
    omega

/-- Every instant that is read from a timestamp is proper. -/
theorem isProper_of_ofRfc3339? {s : String} {instant : Instant}
    (h : ofRfc3339? s = some instant) : instant.IsProper := by
  simp only [ofRfc3339?, Option.bind_eq_bind, Option.bind_eq_some_iff, Prod.exists] at h
  obtain ⟨year, _, -, date, clock, -, h⟩ := h
  split at h
  case h_4 => simp at h
  all_goals
    simp only [Option.bind_some, Option.bind_eq_some_iff, Prod.exists,
      Option.ite_none_right_eq_some, Option.some.injEq] at h
    obtain ⟨second, leap, _, hclock, nanos, _, hfraction, offset, _, hoffset, -, rfl⟩ := h
    exact isProper_ofParts (takeClock?_leap hclock) (takeFraction?_lt hfraction)
      (takeOffset?_emod hoffset)

end Instant

end TimeRollup.Calendar
