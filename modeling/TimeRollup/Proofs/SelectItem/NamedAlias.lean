import TimeRollup.Proofs.SelectItem.Reread

/-!
# Texts that name an alias

A text that names an alias is an expression outside of all parentheses and single quotes, space, the word
`as`, space, and the alias.  Every text of that form is read as that expression under that alias, nothing
else is read as an entry that names its alias, and no text has that form in two ways that differ in more
than the space between the expression and the word.
-/

namespace TimeRollup.SelectItem

open TimeRollup.Text TimeRollup.Sql TimeRollup.Expr

/-- An expression and its alias with the word `as` between them.  The expression begins with a character
that is not blank, and may end with blanks. -/
structure NamedText where
  expression : List Char
  gap : List Char
  word : List Char
  space : List Char
  aliasName : List Char
  expression_ne_nil : expression ≠ []
  head_expression : ∀ c ∈ expression.head?, isBlank c = false
  isTopLevel_expression : isTopLevel expression = true
  gap_ne_nil : gap ≠ []
  isSpace_gap : ∀ c ∈ gap, isSpace c = true
  isAs_word : eqIgnoringCase word ['a', 's'] = true
  space_ne_nil : space ≠ []
  isSpace_space : ∀ c ∈ space, isSpace c = true
  isAlias_aliasName : isAlias aliasName = true

namespace NamedText

variable (parts : NamedText)

def text : List Char :=
  parts.expression ++ parts.gap ++ parts.word ++ parts.space ++ parts.aliasName

/-- The entry that the text stands for. -/
def item : SelectItem :=
  ⟨Expr.parse parts.expression, String.ofList parts.aliasName⟩

theorem exists_word : ∃ a b, parts.word = [a, b] := by
  have hword := parts.isAs_word
  rw [eqIgnoringCase, beq_iff_eq] at hword
  have hlength : parts.word.length = 2 := by simpa using congrArg List.length hword
  exact List.length_eq_two.1 hlength

/-- The word, the space around it and the alias end the text. -/
theorem isAliasSuffix :
    IsAliasSuffix parts.aliasName
      (parts.gap ++ (parts.word ++ (parts.space ++ parts.aliasName))) := by
  obtain ⟨a, b, hword⟩ := parts.exists_word
  have hsuffix : IsAliasSuffix parts.aliasName
      (parts.gap ++ a :: b :: (parts.space ++ (parts.aliasName ++ []))) :=
    .intro parts.gap_ne_nil parts.isSpace_gap (hword ▸ parts.isAs_word) parts.space_ne_nil
      parts.isSpace_space parts.isAlias_aliasName (by simp)
  simpa [hword] using hsuffix

theorem exists_expression_eq_cons :
    ∃ c rest, parts.expression = c :: rest ∧ isBlank c = false := by
  obtain ⟨c, rest, hcons⟩ := List.exists_cons_of_ne_nil parts.expression_ne_nil
  exact ⟨c, rest, hcons, parts.head_expression c (by simp [hcons])⟩

theorem trim_expression : trim parts.expression = trimEnd parts.expression := by
  obtain ⟨c, rest, hcons, hc⟩ := parts.exists_expression_eq_cons
  rw [trim, hcons, trimStart_eq_of_head hc]

theorem trim_text : trim parts.text = parts.text := by
  obtain ⟨c, rest, hcons, hc⟩ := parts.exists_expression_eq_cons
  obtain ⟨front, d, hlast, hd⟩ := getLast?_of_isAlias parts.isAlias_aliasName
  have hends : c :: (rest ++ parts.gap ++ parts.word ++ parts.space ++ parts.aliasName) =
      parts.expression ++ parts.gap ++ parts.word ++ parts.space ++ front ++ [d] := by
    simp [hcons, hlast]
  have htext : parts.text =
      c :: (rest ++ parts.gap ++ parts.word ++ parts.space ++ parts.aliasName) := by
    simp [text, hcons]
  rw [htext, trim_of_ends hc hd hends]

theorem splitAlias?_text :
    splitAlias? parts.text = some (trimEnd parts.expression, parts.aliasName) :=
  splitAlias?_eq_some_iff.2 ⟨parts.expression, _, by simp [text], parts.isTopLevel_expression,
    parts.isAliasSuffix, rfl⟩

/-- Of a text that is read, only what is left after trimming matters. -/
theorem parse_of_trim_eq {s : List Char} (h : trim s = parts.text) : parse s = .ok parts.item := by
  have hexpression : trim (trimEnd parts.expression) = trim parts.expression := by
    rw [← trim_expression, trim_trim]
  refine parse_eq_ok_iff.2 ⟨by simp [h, text, parts.expression_ne_nil], .inl
    ⟨trimEnd parts.expression, parts.aliasName, by rw [h, splitAlias?_text], ?_⟩⟩
  rw [item, parse_congr hexpression]

theorem rdropWhile_isSpace_ne_nil : parts.expression.rdropWhile isSpace ≠ [] := by
  obtain ⟨c, rest, hcons, hc⟩ := parts.exists_expression_eq_cons
  intro hnil
  have hspace : isSpace c = true := List.rdropWhile_eq_nil_iff.1 hnil c (by simp [hcons])
  simp [isBlank_of_isSpace hspace] at hc

/-- The same text, with all space that stands before the word in the gap. -/
def widen : NamedText :=
  { parts with
    expression := parts.expression.rdropWhile isSpace
    gap := parts.expression.rtakeWhile isSpace ++ parts.gap
    expression_ne_nil := parts.rdropWhile_isSpace_ne_nil
    head_expression := by
      intro c hc
      obtain ⟨rest, hrest⟩ := List.rdropWhile_prefix isSpace parts.expression
      apply parts.head_expression
      rw [← hrest, List.head?_append_of_ne_nil _ parts.rdropWhile_isSpace_ne_nil]
      exact hc
    isTopLevel_expression := by
      have hspace : ∀ c ∈ parts.expression.rtakeWhile isSpace, isBlank c = true :=
        fun c hc => isBlank_of_isSpace (List.mem_rtakeWhile_imp hc)
      rw [← isTopLevel_append_of_isBlank hspace, List.rdropWhile_append_rtakeWhile]
      exact parts.isTopLevel_expression
    gap_ne_nil := by simp [parts.gap_ne_nil]
    isSpace_gap := by
      intro c hc
      rcases List.mem_append.1 hc with hc | hc
      · exact List.mem_rtakeWhile_imp hc
      · exact parts.isSpace_gap c hc }

theorem text_widen : parts.widen.text = parts.text := by
  rw [text, widen, ← List.append_assoc, List.rdropWhile_append_rtakeWhile]
  rfl

theorem getLast?_expression_widen : ∀ c ∈ parts.widen.expression.getLast?, isSpace c = false := by
  intro c hc
  obtain ⟨hne, rfl⟩ := List.mem_getLast?_eq_getLast hc
  exact Bool.eq_false_iff.2 (List.rdropWhile_last_not isSpace parts.expression hne)

variable {parts}

/-- Wherever an alias is split off, the text has this form. -/
theorem exists_of_splitAlias? {s e name : List Char} (h : splitAlias? (trim s) = some (e, name)) :
    ∃ parts : NamedText, trim s = parts.text := by
  obtain ⟨left, suffix, htext, hclosed, hsuffix, rfl⟩ := splitAlias?_eq_some_iff.1 h
  obtain ⟨c, rest, rfl, hc⟩ := hsuffix.exists_cons_of_trim htext
  obtain @⟨gap, space, tail, a, b, hgap_ne, hgap, hword, hspace_ne, hspace, hname, htail⟩ := hsuffix
  -- nothing follows the alias, since a trimmed text does not end with a space
  have htail_nil : tail = [] := by
    refine (List.eq_nil_or_concat' tail).resolve_right ?_
    rintro ⟨front, d, rfl⟩
    have hend : trim s =
        c :: rest ++ (gap ++ a :: b :: (space ++ (name ++ front))) ++ [d] := by simp [htext]
    have hd := isBlank_of_trim_eq_concat hend
    simp [isBlank_of_isSpace (htail d (by simp))] at hd
  subst htail_nil
  exact ⟨⟨c :: rest, gap, [a, b], space, name, by simp, by simpa using hc, hclosed, hgap_ne, hgap,
    hword, hspace_ne, hspace, hname⟩, by simp [htext, text]⟩

/-- The text fixes all but how much of the space before the word belongs to the expression. -/
theorem eq_of_text_eq {other : NamedText} (h : parts.text = other.text) :
    parts.aliasName = other.aliasName ∧ parts.space = other.space ∧ parts.word = other.word ∧
      parts.expression ++ parts.gap = other.expression ++ other.gap ∧
      trimEnd parts.expression = trimEnd other.expression := by
  obtain ⟨a, b, hword⟩ := parts.exists_word
  obtain ⟨a', b', hword'⟩ := other.exists_word
  rw [text, text, hword, hword'] at h
  obtain ⟨hfront, hwords, hspaces, hnames⟩ := append_inj_of_alias (hword ▸ parts.isAs_word)
    (hword' ▸ other.isAs_word) parts.space_ne_nil other.space_ne_nil parts.isSpace_space
    other.isSpace_space parts.isAlias_aliasName other.isAlias_aliasName h
  rw [hword, hword']
  exact ⟨hnames, hspaces, hwords, hfront,
    trimEnd_eq_of_append_eq parts.isSpace_gap other.isSpace_gap hfront⟩

end NamedText

/-- Texts that name an alias are read as what they name, and no other text has an alias split off it.  Two
ways of taking one text apart differ only in how much of the space before the word belongs to the
expression.  All of it can be left to the gap; what blanks the expression ends with then are no space. -/
theorem ofText_namedText :
    (∀ parts : NamedText, ofText (String.ofList parts.text) = .ok parts.item) ∧
      (∀ {x : String} {item : SelectItem}, ofText x = .ok item →
        (splitAlias? (trim x.toList)).isSome = true →
          ∃ parts : NamedText, trim x.toList = parts.text ∧ item = parts.item ∧
            ∀ c ∈ parts.expression.getLast?, isSpace c = false) ∧
      ∀ {parts other : NamedText}, parts.text = other.text →
        parts.aliasName = other.aliasName ∧ parts.space = other.space ∧
          parts.word = other.word ∧
          parts.expression ++ parts.gap = other.expression ++ other.gap ∧
          trimEnd parts.expression = trimEnd other.expression := by
  refine ⟨fun parts => ?_, fun {x item} hread hsome => ?_, NamedText.eq_of_text_eq⟩
  · exact parts.parse_of_trim_eq (by rw [String.toList_ofList, parts.trim_text])
  · obtain ⟨⟨e, name⟩, hsplit⟩ := Option.isSome_iff_exists.1 hsome
    obtain ⟨parts, htext⟩ := NamedText.exists_of_splitAlias? hsplit
    have hwiden : trim x.toList = parts.widen.text := htext.trans parts.text_widen.symm
    have hparts : ofText x = .ok parts.widen.item := parts.widen.parse_of_trim_eq hwiden
    exact ⟨parts.widen, hwiden, Except.ok.inj (hread.symm.trans hparts),
      parts.getLast?_expression_widen⟩

/-- Two more aliases stand in the expression, one of them outside of parentheses, and one in the alias. -/
def tangled : NamedText where
  expression := "low as low, max('as (' as high)".toList
  gap := "\t\n".toList
  word := "aS".toList
  space := " \r".toList
  aliasName := "\"low as high\"".toList
  expression_ne_nil := by decide
  head_expression := by simp; decide
  isTopLevel_expression := by decide +kernel
  gap_ne_nil := by decide
  isSpace_gap := List.all_iff_forall_prop.1 (by decide)
  isAs_word := by decide
  space_ne_nil := by decide
  isSpace_space := List.all_iff_forall_prop.1 (by decide)
  isAlias_aliasName := by decide +kernel

/-- In the second text a no-break space, which is blank but cannot stand in the gap, ends the
expression. -/
theorem ofText_tangled :
    ofText "low as low, max('as (' as high)\t\naS \r\"low as high\"" =
        .ok ⟨.raw "low as low, max('as (' as high)", "\"low as high\""⟩ ∧
      ∃ parts : NamedText, trim " low\u00a0\tAS low ".toList = parts.text ∧
        parts.item = ⟨.column "low", "low"⟩ := by
  obtain ⟨hread, hsplit, -⟩ := ofText_namedText
  refine ⟨?_, ?_⟩
  · have htext : String.ofList tangled.text =
        "low as low, max('as (' as high)\t\naS \r\"low as high\"" := by decide +kernel
    have hitem : tangled.item =
        ⟨.raw "low as low, max('as (' as high)", "\"low as high\""⟩ := by decide +kernel
    rw [← htext, ← hitem]
    exact hread tangled
  · have hlow : ofText " low\u00a0\tAS low " = .ok ⟨.column "low", "low"⟩ := by decide +kernel
    obtain ⟨parts, htext, hitem, -⟩ := hsplit hlow (by decide +kernel)
    exact ⟨parts, htext, hitem.symm⟩

end TimeRollup.SelectItem
