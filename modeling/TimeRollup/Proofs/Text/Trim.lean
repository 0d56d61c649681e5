import Mathlib.Data.List.DropRight
import TimeRollup.Text.Blank

/-!
# Trimmed texts

Trimming takes blank characters off both ends and nothing else.  What is left begins and ends with
other characters, and a text that does is left as it is.
-/

namespace TimeRollup.Text

theorem trimEnd_eq_rdropWhile (s : List Char) : trimEnd s = s.rdropWhile isBlank :=
  rfl

theorem exists_eq_append_trim (s : List Char) :
    ∃ before after, s = before ++ trim s ++ after ∧ (∀ c ∈ before, isBlank c = true) ∧
      ∀ c ∈ after, isBlank c = true := by
  refine ⟨s.takeWhile isBlank, (trimStart s).rtakeWhile isBlank, ?_,
    fun c => List.mem_takeWhile_imp, fun c => List.mem_rtakeWhile_imp⟩
  rw [trim, trimEnd_eq_rdropWhile, List.append_assoc, List.rdropWhile_append_rtakeWhile,
    trimStart, List.takeWhile_append_dropWhile]

theorem trim_eq_nil_iff {s : List Char} : trim s = [] ↔ ∀ c ∈ s, isBlank c = true := by
  rw [trim, trimEnd_eq_rdropWhile, List.rdropWhile_eq_nil_iff]
  constructor
  · intro h c hc
    rw [← List.takeWhile_append_dropWhile (p := isBlank) (l := s)] at hc
    rcases List.mem_append.1 hc with hc | hc
    · exact List.mem_takeWhile_imp hc
    · exact h c hc
  · intro h c hc
    exact h c ((List.dropWhile_suffix isBlank).mem hc)

theorem trim_append_of_isBlank {s : List Char} (hs : ∀ c ∈ s, isBlank c = true) (t : List Char) :
    trim (s ++ t) = trim t := by
  rw [trim, trimStart, List.dropWhile_append_of_pos hs]
  rfl

theorem trim_cons_of_blank {c : Char} (h : isBlank c = true) (s : List Char) :
    trim (c :: s) = trim s :=
  trim_append_of_isBlank (s := [c]) (by simpa using h) s

theorem trimEnd_append_of_isBlank {gap : List Char} (h : ∀ c ∈ gap, isBlank c = true)
    (s : List Char) : trimEnd (s ++ gap) = trimEnd s := by
  rw [trimEnd, trimEnd, List.reverse_append, List.dropWhile_append_of_pos (by simpa using h)]

theorem trim_append_of_isBlank_right {gap : List Char} (h : ∀ c ∈ gap, isBlank c = true)
    (s : List Char) : trim (s ++ gap) = trim s := by
  rw [trim, trim, trimStart, trimStart, List.dropWhile_append]
  split
  · rename_i hempty
    rw [List.isEmpty_iff.1 hempty, List.dropWhile_eq_nil_iff.2 h]
  · exact trimEnd_append_of_isBlank h _

/-- Nothing is taken off a word that a text starts with. -/
theorem trim_word_append {word : List Char} (hne : word ≠ [])
    (hword : ∀ c ∈ word, isBlank c = false) (s : List Char) :
    trim (word ++ s) = word ++ trimEnd s := by
  obtain ⟨c, rest, rfl⟩ := List.exists_cons_of_ne_nil hne
  have hreverse : ((c :: rest).reverse).dropWhile isBlank = (c :: rest).reverse := by
    rw [List.dropWhile_eq_self_iff]
    intro hlength
    rw [Bool.not_eq_true]
    exact hword _ (List.mem_reverse.1 (List.getElem_mem hlength))
  have hstart := @trimStart_eq_of_head c (rest ++ s) (hword c List.mem_cons_self)
  rw [trim, List.cons_append, hstart, ← List.cons_append, trimEnd, trimEnd, List.reverse_append,
    List.dropWhile_append, hreverse]
  split
  · rename_i hempty
    rw [List.isEmpty_iff.1 hempty, List.reverse_reverse, List.reverse_nil, List.append_nil]
  · rw [List.reverse_append, List.reverse_reverse]

theorem trim_eq_self {first last : Char} {s : List Char} (hfirst : isBlank first = false)
    (hlast : isBlank last = false) : trim (first :: (s ++ [last])) = first :: (s ++ [last]) := by
  rw [trim, trimStart_eq_of_head hfirst, trimEnd_eq_rdropWhile, ← List.cons_append,
    List.rdropWhile_concat_neg _ _ _ (by simp [hlast])]

theorem isBlank_of_trim_eq_cons {c : Char} {s rest : List Char} (h : trim s = c :: rest) :
    isBlank c = false := by
  have hprefix : c :: rest <+: s.dropWhile isBlank :=
    h ▸ List.rdropWhile_prefix isBlank (s.dropWhile isBlank)
  obtain ⟨more, hmore⟩ := hprefix
  have hhead := List.head?_dropWhile_not isBlank s
  rw [← hmore] at hhead
  simpa using hhead

theorem isBlank_of_trim_eq_concat {c : Char} {s front : List Char} (h : trim s = front ++ [c]) :
    isBlank c = false := by
  have hdrop : (trimStart s).rdropWhile isBlank = front ++ [c] := h
  have hlast := List.rdropWhile_last_not isBlank (trimStart s) (by simp [hdrop])
  simpa [hdrop] using hlast

@[simp]
theorem trim_trim (s : List Char) : trim (trim s) = trim s := by
  cases hs : trim s with
  | nil => rfl
  | cons c rest =>
    have hend : trimEnd (c :: rest) = c :: rest := by
      rw [← hs, trim]
      exact List.rdropWhile_idempotent isBlank _
    rw [trim, trimStart_eq_of_head (isBlank_of_trim_eq_cons hs), hend]

end TimeRollup.Text
