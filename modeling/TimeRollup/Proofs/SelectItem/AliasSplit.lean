import TimeRollup.Proofs.Expr.Reparse
import TimeRollup.SelectItem.Parser

/-!
# Where an alias is split off

A text names an alias if it ends with the word `as`, space around it, and the alias, and if what comes
before is outside of all parentheses and single quotes.  No text does so in two ways: read from its end,
the alias, the space before it, the word and the space before that are all fixed.  So the first place that
can be read as an alias is the right one.
-/

namespace TimeRollup

open TimeRollup.Text TimeRollup.Sql TimeRollup.Expr

/-! ## Runs at the end of a text -/

namespace Text

theorem rdropWhile_append_run {p : Char → Bool} {rest run : List Char}
    (hrest : ∀ c ∈ rest.getLast?, p c = false) (hrun : ∀ c ∈ run, p c = true) :
    (rest ++ run).rdropWhile p = rest := by
  have hdrop : (rest ++ run).reverse.dropWhile p = rest.reverse := by
    rw [List.reverse_append]
    exact dropWhile_run_append (by simpa using hrun) (by simpa using hrest)
  rw [List.rdropWhile, hdrop, List.reverse_reverse]

/-- A text is taken apart in one way only into a run of characters at its end and what ends with another
character. -/
theorem append_inj_of_run {p : Char → Bool} {left left' run run' : List Char}
    (hleft : ∀ c ∈ left.getLast?, p c = false) (hleft' : ∀ c ∈ left'.getLast?, p c = false)
    (hrun : ∀ c ∈ run, p c = true) (hrun' : ∀ c ∈ run', p c = true)
    (h : left ++ run = left' ++ run') : left = left' ∧ run = run' := by
  have heq : left = left' := by
    calc left = (left ++ run).rdropWhile p := (rdropWhile_append_run hleft hrun).symm
      _ = (left' ++ run').rdropWhile p := by rw [h]
      _ = left' := rdropWhile_append_run hleft' hrun'
  subst heq
  exact ⟨rfl, List.append_cancel_left h⟩

end Text

namespace SelectItem

theorem isSpace_eq_false_of_not_isBlank {c : Char} (h : isBlank c = false) : isSpace c = false := by
  rw [Bool.eq_false_iff]
  intro hspace
  simp [isBlank_of_isSpace hspace] at h

/-! ## The end of a text that names an alias -/

/-- The text is the word `as` in any case, with space around it, and an alias. -/
inductive IsAliasSuffix (name : List Char) : List Char → Prop
  | intro {gap space tail : List Char} {a b : Char} (hgap_ne : gap ≠ [])
      (hgap : ∀ c ∈ gap, isSpace c = true) (hword : eqIgnoringCase [a, b] ['a', 's'] = true)
      (hspace_ne : space ≠ []) (hspace : ∀ c ∈ space, isSpace c = true)
      (hname : isAlias name = true) (htail : ∀ c ∈ tail, isSpace c = true) :
      IsAliasSuffix name (gap ++ a :: b :: (space ++ (name ++ tail)))

theorem not_isSpace_of_word {a b : Char} (h : eqIgnoringCase [a, b] ['a', 's'] = true) :
    isSpace a = false ∧ isSpace b = false := by
  simp only [eqIgnoringCase, List.map_cons, List.map_nil, beq_iff_eq, List.cons.injEq, and_true] at h
  have htable : ∀ c ∈ [' ', '\t', '\r', '\n'],
      c.toLower ≠ 'a'.toLower ∧ c.toLower ≠ 's'.toLower :=
    List.all_iff_forall_prop.1 (by decide)
  have hspace {c : Char} (hc : isSpace c = true) :
      c.toLower ≠ 'a'.toLower ∧ c.toLower ≠ 's'.toLower :=
    htable c (by simpa [isSpace, or_assoc] using hc)
  constructor
  · rw [Bool.eq_false_iff]
    exact fun ha => (hspace ha).1 h.1
  · rw [Bool.eq_false_iff]
    exact fun hb => (hspace hb).2 h.2

theorem takeWhile_isSpace_append {gap : List Char} {c : Char}
    (hgap : ∀ c ∈ gap, isSpace c = true) (hc : isSpace c = false) (rest : List Char) :
    (gap ++ c :: rest).takeWhile isSpace = gap ∧ skipSpace (gap ++ c :: rest) = c :: rest := by
  have hstop : ∀ d ∈ (c :: rest).head?, isSpace d = false := by simpa using hc
  exact ⟨takeWhile_run_append hgap hstop, dropWhile_run_append hgap hstop⟩

theorem aliasSuffix?_eq_some_iff {s name : List Char} :
    aliasSuffix? s = some name ↔ IsAliasSuffix name s := by
  constructor
  · intro h
    unfold aliasSuffix? at h
    split at h
    · rename_i a b rest hgap hword
      split at h
      · rename_i has
        split at h
        · rename_i taken after hspace hname
          split at h
          · rename_i htail
            obtain rfl := Option.some.inj h
            obtain ⟨htext, hname⟩ := takeComponent?_eq_some_iff.1 hname
            have hrest := takeWhile_append_skipSpace rest
            rw [htext] at hrest
            rw [← takeWhile_append_skipSpace s, hword, ← hrest]
            exact .intro (by simp [hgap]) (fun c => List.mem_takeWhile_imp) has (by simp [hspace])
              (fun c => List.mem_takeWhile_imp)
              (isAlias_iff.2 (hname.symm.imp_left And.left)) (by simpa using htail)
          · simp at h
        · simp at h
      · simp at h
    · simp at h
  · rintro ⟨hgap_ne, hgap, hword, hspace_ne, hspace, hname, htail⟩
    rename_i gap space tail a b
    obtain ⟨c, rest, rfl, hc⟩ := head_of_isAlias hname
    obtain ⟨htakeGap, hskipGap⟩ := takeWhile_isSpace_append hgap (not_isSpace_of_word hword).1
      (b :: (space ++ (c :: rest ++ tail)))
    obtain ⟨htakeSpace, hskipSpace⟩ := takeWhile_isSpace_append hspace
      (isSpace_eq_false_of_not_isBlank hc) (rest ++ tail)
    have hcomponent : takeComponent? (c :: (rest ++ tail)) = some (c :: rest, tail) := by
      refine takeComponent?_eq_some_iff.2 ⟨rfl, (isAlias_iff.1 hname).symm.imp_right fun h => ⟨h, ?_⟩⟩
      intro d hd
      obtain ⟨more, rfl⟩ := List.head?_eq_some_iff.1 hd
      exact not_isNamePart_of_isBlank (isBlank_of_isSpace (htail d List.mem_cons_self))
    obtain ⟨g, gap, rfl⟩ := List.exists_cons_of_ne_nil hgap_ne
    obtain ⟨d, space, rfl⟩ := List.exists_cons_of_ne_nil hspace_ne
    rw [aliasSuffix?, htakeGap, hskipGap]
    simp only [hword, if_true, List.cons_append] at htakeSpace hskipSpace ⊢
    rw [htakeSpace, hskipSpace]
    simp only [hcomponent]
    rw [if_pos (by simpa using htail)]

/-! ## One way only -/

theorem getLast?_append_ne_quote {left name : List Char} (h : isIdentifier name = true) :
    (left ++ name).getLast? ≠ some '"' := by
  obtain ⟨front, c, rfl, -⟩ := getLast?_of_isAlias (isAlias_iff.2 (.inl h))
  rw [← List.append_assoc, List.getLast?_concat, Ne, Option.some.injEq]
  rintro rfl
  exact absurd (isPlain_of_isIdentifier h '"' (by simp)) (by decide)

/-- An alias is the same wherever it is looked for, as long as no plain name runs into it. -/
theorem append_inj_of_name {left left' name name' : List Char} (hname : isAlias name = true)
    (hname' : isAlias name' = true) (hleft : ∀ c ∈ left.getLast?, isNamePart c = false)
    (hleft' : ∀ c ∈ left'.getLast?, isNamePart c = false)
    (h : left ++ name = left' ++ name') : left = left' ∧ name = name' := by
  rw [isAlias_iff, isQuotedName_iff] at hname hname'
  have hquoted (left content : List Char) :
      (left ++ '"' :: (content ++ ['"'])).getLast? = some '"' := by
    rw [← List.cons_append, ← List.append_assoc, List.getLast?_concat]
  rcases hname with hname | ⟨content, -, hcontent, rfl⟩ <;>
    rcases hname' with hname' | ⟨content', -, hcontent', rfl⟩
  · exact append_inj_of_run hleft hleft' (isNamePart_of_isIdentifier hname)
      (isNamePart_of_isIdentifier hname') h
  · exact absurd (h ▸ hquoted left' content') (getLast?_append_ne_quote hname)
  · exact absurd (h ▸ hquoted left content) (getLast?_append_ne_quote hname')
  · -- between the last two quotes there is none
    have hinside {s : List Char} (hs : '"' ∉ s) : ∀ c ∈ s, (c != '"') = true := by
      intro c hc
      simp only [bne_iff_ne]
      rintro rfl
      exact hs hc
    have hopen : (left ++ ['"']) ++ content = (left' ++ ['"']) ++ content' := by
      have hclosed : (left ++ ['"']) ++ content ++ ['"'] = (left' ++ ['"']) ++ content' ++ ['"'] := by
        simpa using h
      exact List.append_cancel_right hclosed
    obtain ⟨hfront, rfl⟩ := append_inj_of_run (p := (· != '"')) (by simp) (by simp)
      (hinside hcontent) (hinside hcontent') hopen
    exact ⟨List.append_cancel_right hfront, rfl⟩

theorem getLast?_append_of_isAlias {front name : List Char} (hname : isAlias name = true) :
    ∀ c ∈ (front ++ name).getLast?, isSpace c = false := by
  obtain ⟨most, c, rfl, hc⟩ := getLast?_of_isAlias hname
  rw [← List.append_assoc, List.getLast?_concat]
  rintro _ ⟨⟩
  exact isSpace_eq_false_of_not_isBlank hc

theorem getLast?_append_of_isSpace {front space : List Char} (hne : space ≠ [])
    (hspace : ∀ c ∈ space, isSpace c = true) :
    ∀ c ∈ (front ++ space).getLast?, isBlank c = true := by
  intro c hc
  rw [List.getLast?_append_of_ne_nil _ hne] at hc
  exact isBlank_of_isSpace (hspace c (List.mem_of_getLast? hc))

/-- Taken apart from the end, a text has one alias, one space before it, and one word before that. -/
theorem append_inj_of_alias {front front' space space' name name' : List Char} {a b a' b' : Char}
    (hword : eqIgnoringCase [a, b] ['a', 's'] = true)
    (hword' : eqIgnoringCase [a', b'] ['a', 's'] = true) (hspace_ne : space ≠ [])
    (hspace_ne' : space' ≠ []) (hspace : ∀ c ∈ space, isSpace c = true)
    (hspace' : ∀ c ∈ space', isSpace c = true) (hname : isAlias name = true)
    (hname' : isAlias name' = true)
    (h : front ++ [a, b] ++ space ++ name = front' ++ [a', b'] ++ space' ++ name') :
    front = front' ∧ [a, b] = [a', b'] ∧ space = space' ∧ name = name' := by
  obtain ⟨hspaces, hnames⟩ := append_inj_of_name hname hname'
    (fun c hc => not_isNamePart_of_isBlank (getLast?_append_of_isSpace hspace_ne hspace c hc))
    (fun c hc => not_isNamePart_of_isBlank (getLast?_append_of_isSpace hspace_ne' hspace' c hc)) h
  have hlast : (front ++ [a] ++ [b]) ++ space = (front' ++ [a'] ++ [b']) ++ space' := by
    simpa using hspaces
  obtain ⟨hwords, hspaces⟩ := append_inj_of_run (by simpa using (not_isSpace_of_word hword).2)
    (by simpa using (not_isSpace_of_word hword').2) hspace hspace' hlast
  have hpair : front ++ [a, b] = front' ++ [a', b'] := by simpa using hwords
  obtain ⟨hfront, hword⟩ := List.append_inj' hpair rfl
  exact ⟨hfront, hword, hspaces, hnames⟩

theorem trimEnd_eq_of_append_eq {left left' gap gap' : List Char}
    (hgap : ∀ c ∈ gap, isSpace c = true) (hgap' : ∀ c ∈ gap', isSpace c = true)
    (h : left ++ gap = left' ++ gap') : trimEnd left = trimEnd left' := by
  calc trimEnd left = trimEnd (left ++ gap) :=
        (trimEnd_append_of_isBlank (fun c hc => isBlank_of_isSpace (hgap c hc)) left).symm
    _ = trimEnd (left' ++ gap') := by rw [h]
    _ = trimEnd left' :=
        trimEnd_append_of_isBlank (fun c hc => isBlank_of_isSpace (hgap' c hc)) left'

/-- The alias of a text and what comes before it are fixed by the text. -/
theorem IsAliasSuffix.unique {left left' suffix suffix' name name' : List Char}
    (hsuffix : IsAliasSuffix name suffix) (hsuffix' : IsAliasSuffix name' suffix')
    (h : left ++ suffix = left' ++ suffix') : name = name' ∧ trimEnd left = trimEnd left' := by
  obtain @⟨gap, space, tail, a, b, -, hgap, hword, hspace_ne, hspace, hname, htail⟩ := hsuffix
  obtain @⟨gap', space', tail', a', b', -, hgap', hword', hspace_ne', hspace', hname', htail'⟩ :=
    hsuffix'
  have htext : (left ++ gap ++ [a, b] ++ space ++ name) ++ tail =
      (left' ++ gap' ++ [a', b'] ++ space' ++ name') ++ tail' := by simpa using h
  obtain ⟨hclauses, -⟩ := append_inj_of_run (getLast?_append_of_isAlias hname)
    (getLast?_append_of_isAlias hname') htail htail' htext
  obtain ⟨hfront, -, -, hnames⟩ := append_inj_of_alias hword hword' hspace_ne hspace_ne' hspace
    hspace' hname hname' hclauses
  exact ⟨hnames, trimEnd_eq_of_append_eq hgap hgap' hfront⟩

/-! ## The split -/

theorem IsAliasSuffix.exists_cons {name suffix : List Char} (h : IsAliasSuffix name suffix) :
    ∃ c rest, suffix = c :: rest ∧ isBlank c = true := by
  obtain ⟨hgap_ne, hgap, -, -, -, -, -⟩ := h
  obtain ⟨c, gap, rfl⟩ := List.exists_cons_of_ne_nil hgap_ne
  exact ⟨c, _, rfl, isBlank_of_isSpace (hgap c List.mem_cons_self)⟩

/-- A trimmed text does not begin with a space, so something stands before the alias. -/
theorem IsAliasSuffix.exists_cons_of_trim {text left suffix name : List Char}
    (hsuffix : IsAliasSuffix name suffix) (htext : trim text = left ++ suffix) :
    ∃ c rest, left = c :: rest ∧ isBlank c = false := by
  cases left with
  | nil =>
    obtain ⟨c, rest, rfl, hblank⟩ := hsuffix.exists_cons
    simp [isBlank_of_trim_eq_cons htext] at hblank
  | cons c left => exact ⟨c, left, rfl, isBlank_of_trim_eq_cons htext⟩

theorem exists_of_splitAliasAfter_eq_some {nesting : Nesting} {before s e name : List Char}
    (h : splitAliasAfter nesting before s = some (e, name)) :
    ∃ left suffix, s = left ++ suffix ∧ (left.foldl Nesting.step nesting).isClosed = true ∧
      IsAliasSuffix name suffix ∧ e = trimEnd (before.reverse ++ left) := by
  induction s generalizing nesting before with
  | nil => simp [splitAliasAfter] at h
  | cons c rest ih =>
    rw [splitAliasAfter] at h
    split at h
    · rename_i found hfound
      obtain ⟨rfl, rfl⟩ : trimEnd before.reverse = e ∧ found = name := by simpa using h
      rw [Option.ite_none_right_eq_some, Bool.and_eq_true] at hfound
      exact ⟨[], c :: rest, rfl, hfound.1.2, aliasSuffix?_eq_some_iff.1 hfound.2, by simp⟩
    · obtain ⟨left, suffix, rfl, hclosed, hsuffix, rfl⟩ := ih h
      exact ⟨c :: left, suffix, rfl, hclosed, hsuffix, by simp⟩

theorem isSome_splitAliasAfter {nesting : Nesting} {left suffix name : List Char}
    (hclosed : (left.foldl Nesting.step nesting).isClosed = true)
    (hsuffix : IsAliasSuffix name suffix) (before : List Char) :
    (splitAliasAfter nesting before (left ++ suffix)).isSome = true := by
  induction left generalizing nesting before with
  | nil =>
    obtain ⟨c, rest, rfl, hblank⟩ := hsuffix.exists_cons
    have hnesting : nesting.isClosed = true := hclosed
    rw [List.nil_append, splitAliasAfter, hblank, hnesting, aliasSuffix?_eq_some_iff.2 hsuffix]
    rfl
  | cons c left ih =>
    rw [List.cons_append, splitAliasAfter]
    split
    · rfl
    · exact ih hclosed (c :: before)

/-- An alias is split off exactly where a text outside of all parentheses and quotes is followed by one,
whichever place is tried first. -/
theorem splitAlias?_eq_some_iff {s e name : List Char} :
    splitAlias? s = some (e, name) ↔
      ∃ left suffix, s = left ++ suffix ∧ isTopLevel left = true ∧ IsAliasSuffix name suffix ∧
        e = trimEnd left := by
  constructor
  · exact exists_of_splitAliasAfter_eq_some
  · rintro ⟨left, suffix, rfl, hclosed, hsuffix, rfl⟩
    have hsome := isSome_splitAliasAfter hclosed hsuffix []
    obtain ⟨⟨e, found⟩, hfound⟩ := Option.isSome_iff_exists.1 hsome
    obtain ⟨left', suffix', htext, -, hsuffix', rfl⟩ := exists_of_splitAliasAfter_eq_some hfound
    obtain ⟨rfl, htrim⟩ := hsuffix.unique hsuffix' htext
    rw [splitAlias?, hfound, htrim]
    rfl

end SelectItem

end TimeRollup
