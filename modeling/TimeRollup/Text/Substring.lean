/-!
# Occurrences of a text inside another

`replaceAll` reads from the left and goes on after each occurrence, so occurrences that overlap a
replaced one stay, and inserted text is not searched again.
-/

namespace TimeRollup.Text

def occursIn (pattern : List Char) : List Char → Bool
  | [] => pattern.isEmpty
  | c :: rest => pattern.isPrefixOf (c :: rest) || occursIn pattern rest

def contains (s pattern : String) : Bool :=
  occursIn pattern.toList s.toList

/-- Passes over `skip` characters, then replaces. -/
def replaceAfter (pattern new : List Char) (skip : Nat) : List Char → List Char
  | [] => []
  | c :: rest =>
    match skip with
    | skip + 1 => replaceAfter pattern new skip rest
    | 0 =>
      if pattern.isPrefixOf (c :: rest) then
        new ++ replaceAfter pattern new (pattern.length - 1) rest
      else c :: replaceAfter pattern new 0 rest

/-- Writes `new` for every occurrence of the pattern, which is not empty. -/
def replaceAll (pattern new s : List Char) : List Char :=
  replaceAfter pattern new 0 s

theorem replaceAfter_eq_drop (pattern new : List Char) (skip : Nat) (s : List Char) :
    replaceAfter pattern new skip s = replaceAll pattern new (s.drop skip) := by
  induction s generalizing skip with
  | nil => simp [replaceAfter, replaceAll]
  | cons c rest ih =>
    cases skip with
    | zero => rfl
    | succ skip => simpa [replaceAfter] using ih skip

theorem replaceAll_cons_of_not_begin {pattern new rest : List Char} {c : Char}
    (h : pattern.isPrefixOf (c :: rest) = false) :
    replaceAll pattern new (c :: rest) = c :: replaceAll pattern new rest := by
  simp [replaceAll, replaceAfter, h]

theorem replaceAll_append_pattern {pattern : List Char} (h : pattern ≠ []) (new rest : List Char) :
    replaceAll pattern new (pattern ++ rest) = new ++ replaceAll pattern new rest := by
  obtain ⟨first, pattern, rfl⟩ := List.exists_cons_of_ne_nil h
  have hbegin : (first :: pattern).isPrefixOf (first :: (pattern ++ rest)) = true :=
    List.isPrefixOf_iff_prefix.2 (List.prefix_append (first :: pattern) rest)
  rw [replaceAll, List.cons_append, replaceAfter]
  simp only [hbegin, if_true]
  rw [replaceAfter_eq_drop]
  simp

section First

variable {first : Char} {pattern new s : List Char}

/-- No occurrence begins in a text without the first character of the pattern. -/
theorem replaceAll_append_of_not_mem (h : first ∉ s) (rest : List Char) :
    replaceAll (first :: pattern) new (s ++ rest) = s ++ replaceAll (first :: pattern) new rest := by
  induction s with
  | nil => rfl
  | cons c s ih =>
    rw [List.mem_cons, not_or] at h
    have hc : (first :: pattern).isPrefixOf (c :: (s ++ rest)) = false := by
      simp [List.isPrefixOf, h.1]
    rw [List.cons_append, replaceAll_cons_of_not_begin hc, ih h.2, List.cons_append]

theorem prefix_of_prefix_append_cons {rest : List Char} (h : first ∉ pattern)
    (hbegin : pattern <+: s ++ first :: rest) : pattern <+: s := by
  rcases List.prefix_or_prefix_of_prefix hbegin (List.prefix_append s _) with hshort | ⟨more, rfl⟩
  · exact hshort
  · rw [List.prefix_append_right_inj] at hbegin
    cases more with
    | nil => simp
    | cons c more =>
      rw [List.cons_prefix_cons] at hbegin
      simp [hbegin.1] at h

/-- No occurrence reaches over the first character of the pattern if that is not in the rest. -/
theorem replaceAll_append_first (h : first ∉ pattern) (rest : List Char) :
    replaceAll (first :: pattern) new (s ++ first :: rest) =
      replaceAll (first :: pattern) new s ++ replaceAll (first :: pattern) new (first :: rest) := by
  suffices hskip : ∀ skip ≤ s.length, replaceAfter (first :: pattern) new skip (s ++ first :: rest) =
      replaceAfter (first :: pattern) new skip s ++
        replaceAll (first :: pattern) new (first :: rest) from hskip 0 (Nat.zero_le _)
  induction s with
  | nil =>
    intro skip hskip
    rw [Nat.le_zero.1 hskip]
    rfl
  | cons c s ih =>
    intro skip hskip
    cases skip with
    | succ skip =>
      simpa [replaceAfter] using ih skip (Nat.le_of_succ_le_succ hskip)
    | zero =>
      by_cases hfound : first :: pattern <+: c :: s
      · have hlonger : first :: pattern <+: c :: (s ++ first :: rest) :=
          hfound.trans (List.prefix_append (c :: s) _)
        have hlength := hfound.length_le
        rw [List.cons_append, replaceAfter, replaceAfter]
        simp only [List.isPrefixOf_iff_prefix.2 hfound, List.isPrefixOf_iff_prefix.2 hlonger, if_true]
        rw [ih _ (by simpa using hlength), List.append_assoc]
      · have hlonger : ¬ first :: pattern <+: c :: (s ++ first :: rest) := by
          intro hbegin
          rw [List.cons_prefix_cons] at hfound hbegin
          exact hfound ⟨hbegin.1, prefix_of_prefix_append_cons h hbegin.2⟩
        rw [List.cons_append, replaceAfter, replaceAfter]
        simp only [List.isPrefixOf_iff_prefix, hfound, hlonger, if_false]
        rw [ih 0 (Nat.zero_le _), List.cons_append]

end First

theorem occursIn_iff_exists (pattern s : List Char) :
    occursIn pattern s = true ↔ ∃ before after, s = before ++ pattern ++ after := by
  induction s with
  | nil =>
    simp only [occursIn, List.isEmpty_iff]
    constructor
    · rintro rfl
      exact ⟨[], [], rfl⟩
    · rintro ⟨before, after, h⟩
      simp only [List.append_assoc, List.nil_eq, List.append_eq_nil_iff] at h
      exact h.2.1
  | cons c rest ih =>
    simp only [occursIn, Bool.or_eq_true, List.isPrefixOf_iff_prefix, ih]
    constructor
    · rintro (⟨after, h⟩ | ⟨before, after, h⟩)
      · exact ⟨[], after, by simpa using h.symm⟩
      · exact ⟨c :: before, after, by simp [h]⟩
    · rintro ⟨before, after, h⟩
      cases before with
      | nil => exact .inl ⟨after, by simpa using h.symm⟩
      | cons d before =>
        simp only [List.cons_append, List.cons.injEq] at h
        exact .inr ⟨before, after, h.2⟩

/-- What stands before and after the last mark of a list is determined by the list. -/
theorem eq_of_append_cons_eq {α : Type} {before before' after after' : List α} {mark : α}
    (hafter : mark ∉ after) (hafter' : mark ∉ after')
    (h : before ++ mark :: after = before' ++ mark :: after') :
    before = before' ∧ after = after' := by
  rcases List.append_eq_append_iff.1 h with ⟨between, hbefore, hrest⟩ | ⟨between, hbefore, hrest⟩
  · cases between with
    | nil => simpa [eq_comm] using And.intro hbefore hrest
    | cons _ between =>
      rw [List.cons_append, List.cons.injEq] at hrest
      simp [hrest.2] at hafter
  · cases between with
    | nil => simpa [eq_comm] using And.intro hbefore hrest
    | cons _ between =>
      rw [List.cons_append, List.cons.injEq] at hrest
      simp [hrest.2] at hafter'

/-- What stands before and after the first mark of a list is determined by the list. -/
theorem eq_of_append_cons_eq_of_before {α : Type} {before before' after after' : List α} {mark : α}
    (hbefore : mark ∉ before) (hbefore' : mark ∉ before')
    (h : before ++ mark :: after = before' ++ mark :: after') :
    before = before' ∧ after = after' := by
  have hreverse := congrArg List.reverse h
  simp only [List.reverse_append, List.reverse_cons, List.append_assoc, List.singleton_append]
    at hreverse
  have hends := eq_of_append_cons_eq (by simpa using hbefore) (by simpa using hbefore') hreverse
  simpa using hends.symm

end TimeRollup.Text
