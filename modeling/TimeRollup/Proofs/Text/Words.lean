import TimeRollup.Text.Blank

/-!
# Words of a text

The first word of a text stands behind blank characters only and ends at the next of them or with the
text, and the words after it are those of the rest.  So a reader that goes over a text from left to right
comes by its words in order.
-/

namespace TimeRollup.Text

/-! ## Runs at the beginning of a text -/

section Runs

variable {p : Char → Bool} {run rest : List Char}

theorem takeWhile_run_append (hrun : ∀ c ∈ run, p c = true) (hrest : ∀ c ∈ rest.head?, p c = false) :
    (run ++ rest).takeWhile p = run := by
  rw [List.takeWhile_append_of_pos hrun]
  cases rest with
  | nil => exact List.append_nil run
  | cons c rest => rw [List.takeWhile_cons_of_neg (by simp [hrest c rfl]), List.append_nil]

theorem dropWhile_run_append (hrun : ∀ c ∈ run, p c = true) (hrest : ∀ c ∈ rest.head?, p c = false) :
    (run ++ rest).dropWhile p = rest := by
  rw [List.dropWhile_append_of_pos hrun]
  cases rest with
  | nil => rfl
  | cons c rest => exact List.dropWhile_cons_of_neg (by simp [hrest c rfl])

end Runs

/-! ## Words -/

theorem words_eq_pushWord (s : List Char) :
    words s = pushWord (splitWord s).1 (splitWord s).2 :=
  rfl

theorem splitWord_cons_of_isBlank {c : Char} (h : isBlank c = true) (rest : List Char) :
    splitWord (c :: rest) = ([], words rest) := by
  rw [splitWord, words_eq_pushWord]
  simp only [h, if_true]

theorem splitWord_cons_of_not_isBlank {c : Char} (h : isBlank c = false) (rest : List Char) :
    splitWord (c :: rest) = (c :: (splitWord rest).1, (splitWord rest).2) := by
  rw [splitWord]
  simp only [h, Bool.false_eq_true, if_false]

theorem words_cons_of_isBlank {c : Char} (h : isBlank c = true) (rest : List Char) :
    words (c :: rest) = words rest := by
  rw [words_eq_pushWord, splitWord_cons_of_isBlank h]
  rfl

theorem words_cons_of_not_isBlank {c : Char} (h : isBlank c = false) (rest : List Char) :
    words (c :: rest) = (c :: (splitWord rest).1) :: (splitWord rest).2 := by
  rw [words_eq_pushWord, splitWord_cons_of_not_isBlank h]
  rfl

/-- The text is a word and what stands behind it. -/
structure IsWordBefore (word rest s : List Char) : Prop where
  text_eq : s = word ++ rest
  not_isBlank : ∀ c ∈ word, isBlank c = false
  ends : ∀ c ∈ rest.head?, isBlank c = true

theorem exists_isWordBefore_splitWord (s : List Char) :
    ∃ rest, IsWordBefore (splitWord s).1 rest s ∧ words rest = (splitWord s).2 := by
  induction s with
  | nil => exact ⟨[], ⟨rfl, by simp [splitWord], by simp⟩, rfl⟩
  | cons c s ih =>
    cases hblank : isBlank c with
    | true =>
      rw [splitWord_cons_of_isBlank hblank]
      exact ⟨c :: s, ⟨rfl, by simp, by simp [hblank]⟩, words_cons_of_isBlank hblank s⟩
    | false =>
      obtain ⟨rest, ⟨htext, hword, hends⟩, hlater⟩ := ih
      rw [splitWord_cons_of_not_isBlank hblank]
      refine ⟨rest, ⟨congrArg (c :: ·) htext, ?_, hends⟩, hlater⟩
      exact List.forall_mem_cons.2 ⟨hblank, hword⟩

theorem exists_isWordBefore_of_words_eq_cons {s word : List Char} {later : List (List Char)}
    (h : words s = word :: later) :
    ∃ gap text rest, s = gap ++ text ∧ (∀ c ∈ gap, isBlank c = true) ∧
      IsWordBefore word rest text ∧ words rest = later := by
  induction s with
  | nil => simp [words, splitWord, pushWord] at h
  | cons c s ih =>
    cases hblank : isBlank c with
    | true =>
      rw [words_cons_of_isBlank hblank] at h
      obtain ⟨gap, text, rest, rfl, hgap, hword, hlater⟩ := ih h
      exact ⟨c :: gap, text, rest, rfl, List.forall_mem_cons.2 ⟨hblank, hgap⟩, hword, hlater⟩
    | false =>
      obtain ⟨rest, hword, hlater⟩ := exists_isWordBefore_splitWord (c :: s)
      rw [words_cons_of_not_isBlank hblank, List.cons.injEq] at h
      rw [splitWord_cons_of_not_isBlank hblank, h.1] at hword
      rw [splitWord_cons_of_not_isBlank hblank, h.2] at hlater
      exact ⟨[], c :: s, rest, rfl, by simp, hword, hlater⟩

theorem isBlank_of_words_eq_nil {s : List Char} (h : words s = []) :
    ∀ c ∈ s, isBlank c = true := by
  induction s with
  | nil => simp
  | cons c s ih =>
    cases hblank : isBlank c with
    | true =>
      rw [words_cons_of_isBlank hblank] at h
      exact List.forall_mem_cons.2 ⟨hblank, ih h⟩
    | false => simp [words_cons_of_not_isBlank hblank] at h

/-- At least one character, and none that is blank. -/
def IsWord (word : List Char) : Prop :=
  word ≠ [] ∧ ∀ c ∈ word, isBlank c = false

theorem isWord_of_mem_words {s word : List Char} (h : word ∈ words s) : IsWord word := by
  suffices hsplit : (∀ c ∈ (splitWord s).1, isBlank c = false) ∧
      ∀ later ∈ (splitWord s).2, IsWord later by
    rw [words_eq_pushWord, pushWord] at h
    split at h
    · exact hsplit.2 word h
    · rename_i hne
      rcases List.mem_cons.1 h with rfl | h
      · exact ⟨by simpa using hne, hsplit.1⟩
      · exact hsplit.2 word h
  clear h
  induction s with
  | nil => simp [splitWord]
  | cons c s ih =>
    cases hblank : isBlank c with
    | true =>
      rw [splitWord_cons_of_isBlank hblank, words_eq_pushWord, pushWord]
      refine ⟨by simp, ?_⟩
      split
      · exact ih.2
      · rename_i hne
        exact List.forall_mem_cons.2 ⟨⟨by simpa using hne, ih.1⟩, ih.2⟩
    | false =>
      rw [splitWord_cons_of_not_isBlank hblank]
      exact ⟨List.forall_mem_cons.2 ⟨hblank, ih.1⟩, ih.2⟩

theorem splitWord_append {word rest : List Char} (hword : ∀ c ∈ word, isBlank c = false)
    (hend : ∀ c ∈ rest.head?, isBlank c = true) : splitWord (word ++ rest) = (word, words rest) := by
  induction word with
  | nil =>
    cases rest with
    | nil => rfl
    | cons c rest =>
      have hblank := hend c rfl
      rw [List.nil_append, splitWord_cons_of_isBlank hblank, words_cons_of_isBlank hblank]
  | cons c word ih =>
    obtain ⟨hc, hword⟩ := List.forall_mem_cons.1 hword
    rw [List.cons_append, splitWord_cons_of_not_isBlank hc, ih hword]

theorem words_append {word rest : List Char} (hword : IsWord word)
    (hend : ∀ c ∈ rest.head?, isBlank c = true) : words (word ++ rest) = word :: words rest := by
  rw [words_eq_pushWord, splitWord_append hword.2 hend, pushWord, if_neg (by simpa using hword.1)]

theorem joinWords_cons_cons (word next : List Char) (later : List (List Char)) :
    joinWords (word :: next :: later) = word ++ ' ' :: joinWords (next :: later) := by
  simp [joinWords, List.intercalate_cons_cons]

@[simp]
theorem joinWords_singleton (word : List Char) : joinWords [word] = word := by
  simp [joinWords, List.intercalate]

theorem flatMap_space_eq_joinWords {ws : List (List Char)} (h : ws ≠ []) :
    ws.flatMap (' ' :: ·) = ' ' :: joinWords ws := by
  induction ws with
  | nil => exact absurd rfl h
  | cons word later ih =>
    cases later with
    | nil => simp
    | cons next later =>
      rw [List.flatMap_cons, ih (List.cons_ne_nil next later), joinWords_cons_cons, List.cons_append]

/-- Between the words there is nothing but spaces. -/
theorem mem_joinWords {ws : List (List Char)} {c : Char} (h : c ∈ joinWords ws) :
    c = ' ' ∨ ∃ word ∈ ws, c ∈ word := by
  cases ws with
  | nil => simp [joinWords] at h
  | cons word later =>
    have hmem : c ∈ (word :: later).flatMap (' ' :: ·) := by
      rw [flatMap_space_eq_joinWords (List.cons_ne_nil word later)]
      exact List.mem_cons_of_mem ' ' h
    obtain ⟨found, hfound, hc⟩ := List.mem_flatMap.1 hmem
    exact (List.mem_cons.1 hc).imp_right fun hc => ⟨found, hfound, hc⟩

theorem mem_joinWords_of_mem {ws : List (List Char)} {word : List Char} {c : Char} (hword : word ∈ ws)
    (hc : c ∈ word) (hne : c ≠ ' ') : c ∈ joinWords ws := by
  have hmem : c ∈ ws.flatMap (' ' :: ·) :=
    List.mem_flatMap.2 ⟨word, hword, List.mem_cons_of_mem ' ' hc⟩
  rw [flatMap_space_eq_joinWords (List.ne_nil_of_mem hword)] at hmem
  exact (List.mem_cons.1 hmem).resolve_left hne

/-- Words with spaces between them are taken apart again. -/
theorem words_joinWords {ws : List (List Char)} (h : ∀ word ∈ ws, IsWord word) :
    words (joinWords ws) = ws := by
  induction ws with
  | nil => rfl
  | cons word later ih =>
    obtain ⟨hword, hlater⟩ := List.forall_mem_cons.1 h
    cases later with
    | nil =>
      have hwords := @words_append word [] hword (by simp)
      rw [List.append_nil] at hwords
      rw [joinWords_singleton, hwords]
      rfl
    | cons next later =>
      have hspace : isBlank ' ' = true := by decide
      rw [joinWords_cons_cons, words_append hword (by simpa using hspace),
        words_cons_of_isBlank hspace, ih hlater]

end TimeRollup.Text
