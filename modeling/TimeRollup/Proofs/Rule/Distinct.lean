import TimeRollup.Proofs.Expr.Reparse
import TimeRollup.Proofs.Rule.Tables

/-!
# Counts and sums of distinct values

A count or a sum of distinct values must not be rolled up by a sum, so an argument that begins with
the word for it has no shape among the aggregates.  The word is looked for in raw text only.  An
argument that is read as something else than raw text is therefore rolled up as if the word were
not there: the form of a function call of that name, and the word alone, which is read as a column.
-/

namespace TimeRollup

open TimeRollup.Text TimeRollup.Sql

namespace Expr

/-- The argument begins with the word for distinct values, in any case, and behind the word stands
a blank character or an opening parenthesis. -/
def AsksDistinct (word argument : List Char) : Prop :=
  eqIgnoringCase word "distinct".toList = true ∧
    ∃ gap next rest, (∀ c ∈ gap, isBlank c = true) ∧ (isBlank next = true ∨ next = '(') ∧
      argument = gap ++ (word ++ next :: rest)

/-- The argument is the word alone, or has the form of a call of a function of that name. -/
def HidesDistinct (word argument : List Char) : Prop :=
  trim argument = word ∨ ∃ args, call? (trim argument) = some (word, args)

instance (word argument : List Char) : Decidable (HidesDistinct word argument) :=
  decidable_of_iff (trim argument = word ∨ (call? (trim argument)).map Prod.fst = some word)
    (by simp [HidesDistinct])

variable {word argument : List Char}

theorem isAlpha_of_toLower_mem {c : Char} (h : c.toLower ∈ "distinct".toList) :
    c.isAlpha = true := by
  by_cases hupper : c.isUpper = true
  · show (c.isUpper || c.isLower) = true
    rw [hupper, Bool.true_or]
  · have hsame : c.toLower = c := dif_neg fun hrange => hupper (decide_eq_true hrange)
    have htable : ∀ c ∈ "distinct".toList, c.isAlpha = true :=
      List.all_iff_forall_prop.1 (by decide)
    exact htable c (hsame ▸ h)

theorem isIdentifier_of_eqIgnoringCase (h : eqIgnoringCase word "distinct".toList = true) :
    isIdentifier word = true := by
  have hmap : word.map Char.toLower = "distinct".toList := by
    rw [eqIgnoringCase, beq_iff_eq] at h
    rw [h]
    decide
  have hletter : ∀ c ∈ word, isLetter c = true := by
    intro c hc
    apply isLetter_of_isAlpha
    exact isAlpha_of_toLower_mem (hmap ▸ List.mem_map_of_mem hc)
  cases word with
  | nil => simp at hmap
  | cons first word =>
    obtain ⟨hfirst, hlater⟩ := List.forall_mem_cons.1 hletter
    rw [isIdentifier_cons, Bool.and_eq_true, List.all_eq_true]
    exact ⟨by simp [isNameStart, hfirst], fun c hc => by simp [isNamePart, hlater c hc]⟩

/-- Without the blank characters around it, the argument is the word and perhaps more behind it. -/
theorem AsksDistinct.exists_trim_eq (h : AsksDistinct word argument) :
    ∃ after, trim argument = word ++ after ∧
      ∀ c ∈ after.head?, isBlank c = true ∨ c = '(' := by
  obtain ⟨hword, gap, next, rest, hgap, hnext, rfl⟩ := h
  have hplain := isPlain_of_isIdentifier (isIdentifier_of_eqIgnoringCase hword)
  have hne : word ≠ [] := by
    rintro rfl
    exact absurd hword (by decide)
  refine ⟨trimEnd (next :: rest), ?_, ?_⟩
  · rw [trim_append_of_isBlank hgap,
      trim_word_append hne fun c hc => (isPlain_iff.1 (hplain c hc)).1]
  · intro c hc
    obtain ⟨more, hmore⟩ := List.head?_eq_some_iff.1 hc
    obtain ⟨tail, htail⟩ := List.rdropWhile_prefix isBlank (next :: rest)
    rw [← trimEnd_eq_rdropWhile, hmore, List.cons_append, List.cons.injEq] at htail
    rw [htail.1]
    exact hnext

/-- A text that starts with a plain name and does not go on with a point is a column reference if
it is no more than the name, and raw text if it is. -/
theorem ofAtom_of_takeName? {s name after : List Char} (hname : takeName? s = some (name, after))
    (hpoint : after.head? ≠ some '.') :
    ofAtom s = if after = [] then .column (String.ofList s) else .raw (String.ofList s) := by
  obtain ⟨hidentifier, rfl, -⟩ := takeName?_eq_some_iff.1 hname
  cases name with
  | nil => simp [isIdentifier, takeName?] at hidentifier
  | cons first name =>
    rw [isIdentifier_cons, Bool.and_eq_true] at hidentifier
    have hstart : ∀ sign ∈ ['*', '\'', '-', '"'], first ≠ sign := by
      have htable : ∀ sign ∈ ['*', '\'', '-', '"'], isNameStart sign = false :=
        List.all_iff_forall_prop.1 (by decide)
      rintro sign hsign rfl
      simp [htable first hsign] at hidentifier
    have hdigit : first.isDigit = false := by
      rw [Bool.eq_false_iff]
      intro hdigit
      have htable := forall_ascii (P := fun c => isNameStart c = true → c.isDigit = false)
        (by decide) (toNat_lt_of_isDigit hdigit) hidentifier.1
      simp [hdigit] at htable
    simp only [List.forall_mem_cons] at hstart
    obtain ⟨hstar, hsingle, hminus, hdouble, -⟩ := hstart
    have hliteral : isLiteral (first :: name ++ after) = false := by
      simp [isLiteral, isQuotedText, isNumeral, isUnsignedNumber, hsingle, hminus, hdigit]
    have hquoted : takeQuoted? (first :: name ++ after) = none := by
      simp [takeQuoted?, hdouble]
    have hparts : (columnParts? (first :: name ++ after)).isSome = true ↔ after = [] := by
      rw [columnParts?_eq, takeComponent?, hquoted, Option.none_or, hname]
      cases after with
      | nil => simp
      | cons c after =>
        have hc : c ≠ '.' := by simpa using hpoint
        simp [hc]
    rw [ofAtom, if_neg (by simp [hstar]), if_neg (by rw [hliteral]; exact Bool.false_ne_true)]
    simp only [hparts]

theorem isDistinct_raw_append {after : List Char}
    (hword : eqIgnoringCase word "distinct".toList = true)
    (hafter : ∀ c ∈ after.head?, isBlank c = true ∨ c = '(') :
    (Expr.raw (String.ofList (word ++ after))).isDistinct = true := by
  have hinside : ∀ c ∈ word, (!isBlank c && c != '(') = true := by
    intro c hc
    obtain ⟨hblank, hsign⟩ := isPlain_iff.1
      (isPlain_of_isIdentifier (isIdentifier_of_eqIgnoringCase hword) c hc)
    have hopen : c ≠ '(' := by
      rintro rfl
      exact absurd hsign (by decide)
    simp [hblank, hopen]
  have hbehind : after.takeWhile (fun c => !isBlank c && c != '(') = [] := by
    cases after with
    | nil => rfl
    | cons c after =>
      apply List.takeWhile_cons_of_neg
      rcases hafter c rfl with hblank | rfl <;> simp_all
  rw [isDistinct, String.toList_ofList, List.takeWhile_append_of_pos hinside, hbehind,
    List.append_nil, hword]

/-- The word is found unless it is hidden. -/
theorem AsksDistinct.isDistinct_parse_iff (h : AsksDistinct word argument) :
    (parse argument).isDistinct = true ↔ ¬ HidesDistinct word argument := by
  obtain ⟨after, htrim, hafter⟩ := h.exists_trim_eq
  have hword := h.1
  have hend : ∀ c ∈ after.head?, isNamePart c = false := by
    intro c hc
    rcases hafter c hc with hblank | rfl
    · exact not_isNamePart_of_isBlank hblank
    · decide
  have hname : takeName? (trim argument) = some (word, after) :=
    takeName?_eq_some_iff.2 ⟨isIdentifier_of_eqIgnoringCase hword, htrim, hend⟩
  cases hcall : call? (trim argument) with
  | some parts =>
    obtain ⟨function, args⟩ := parts
    obtain ⟨rest, hrest⟩ := (isCall_of_call? hcall).exists_takeName?
    obtain ⟨rfl, -⟩ : word = function ∧ after = rest := by simpa [hname] using hrest
    rw [parse_eq_call hcall]
    simp [isDistinct, HidesDistinct, hcall]
  | none =>
    have hpoint : after.head? ≠ some '.' := by
      intro hpoint
      rcases hafter '.' hpoint with hblank | hopen
      · exact absurd hblank (by decide)
      · exact absurd hopen (by decide)
    rw [parse_eq_atom hcall, ofAtom_of_takeName? hname hpoint]
    by_cases hnil : after = []
    · have halone : trim argument = word := by rw [htrim, hnil, List.append_nil]
      simp [hnil, isDistinct, HidesDistinct, halone]
    · have hmore : ¬ trim argument = word := by simpa [htrim] using hnil
      rw [if_neg hnil, htrim, isDistinct_raw_append hword hafter]
      simp [HidesDistinct, hmore, hcall]

/-- The argument of a call that is read from a text is what stands between the parentheses. -/
theorem eq_parse_of_parse_eq_call {function : List Char} {name : String} {arg : Expr}
    (hfunction : isIdentifier function = true)
    (h : parse (function ++ '(' :: (argument ++ [')'])) = .call name [arg]) :
    arg = parse argument := by
  have htrim : trim (function ++ '(' :: (argument ++ [')'])) =
      function ++ '(' :: (argument ++ [')']) := trim_call (isPlain_of_isIdentifier hfunction)
  have hname : takeName? (function ++ '(' :: (argument ++ [')'])) =
      some (function, '(' :: (argument ++ [')'])) :=
    @takeName?_call function [] hfunction (by simp) (argument ++ [')'])
  cases hcall : call? (function ++ '(' :: (argument ++ [')'])) with
  | none =>
    rw [parse_eq_atom (htrim.symm ▸ hcall), ofAtom] at h
    split_ifs at h
  | some parts =>
    obtain ⟨called, args⟩ := parts
    obtain ⟨rest, hrest⟩ := (isCall_of_call? hcall).exists_takeName?
    obtain ⟨rfl, -⟩ : function = called ∧ _ = rest := by simpa [hname] using hrest
    rw [parse_eq_call (htrim.symm ▸ hcall), Expr.call.injEq] at h
    obtain ⟨only, rfl, rfl⟩ := List.map_eq_singleton_iff.1 h.2
    obtain ⟨gap, inner, hgap, hinner, htext⟩ := (isCall_of_call? hcall).exists_text
    cases gap with
    | cons c gap =>
      obtain ⟨rfl, -⟩ : '(' = c ∧ _ := by simpa using htext
      exact absurd (hgap '(' List.mem_cons_self) (by decide)
    | nil =>
      have hargument : argument = inner ++ only := by
        simpa [intercalate_comma_cons, ← List.append_assoc] using htext
      rw [hargument]
      exact parse_congr
        (trim_append_of_isBlank (fun c hc => isBlank_of_isSpace (hinner c hc)) only).symm

end Expr

namespace RuleTable

open TimeRollup.Expr

/-- The count or sum of an argument that begins with the word for distinct values is forwarded
under every accepted table, unless the argument hides the word.  Then it is rolled up by a sum. -/
theorem rewrite_distinct {table : RuleTable} {rules : List CustomRule}
    {function aliasName : String} {word argument : List Char} {arg : Expr}
    (htable : ofRules rules = .ok table) (hfunction : function = "count" ∨ function = "sum")
    (hdistinct : AsksDistinct word argument)
    (hparse : ofText (function ++ "(" ++ String.ofList argument ++ ")") = .call function [arg]) :
    (¬ HidesDistinct word argument →
        (Expr.call function [arg]).shape = .call function ∧
          table.rewrite ⟨.call function [arg], aliasName⟩ =
            .forwarded ⟨.call function [arg], aliasName⟩) ∧
      (HidesDistinct word argument →
        table.rewrite ⟨.call function [arg], aliasName⟩ =
          .rolled ⟨.call "sum" [.column aliasName], aliasName⟩) := by
  have hfixed : function ∈ fixedFunctions := by
    rcases hfunction with rfl | rfl <;> decide
  have hidentifier : isIdentifier function.toList = true := by
    rcases hfunction with rfl | rfl <;> decide
  have htext : parse (function.toList ++ '(' :: (argument ++ [')'])) = .call function [arg] := by
    simpa [ofText] using hparse
  have hargument := eq_parse_of_parse_eq_call hidentifier htext
  have hiff := hdistinct.isDistinct_parse_iff
  rw [← hargument] at hiff
  constructor
  · intro hplain
    have hshape : (Expr.call function [arg]).shape = .call function := by
      rcases hfunction with rfl | rfl <;> simp [shape, callShape, hiff.2 hplain]
    refine ⟨hshape, ?_⟩
    rw [rewrite, SelectItem.shape, hshape]
    simp [(isAccepted_ofRules htable).find?_eq_none hfixed]
  · intro hhidden
    have harg : arg.isDistinct = false := by
      rw [Bool.eq_false_iff]
      exact fun h => hiff.1 h hhidden
    rcases hfunction with rfl | rfl <;>
      simp [rewrite, SelectItem.shape, shape, callShape, harg]

theorem rewrite_distinct_users :
    (Expr.call "count" [.raw "Distinct user_id"]).shape = .call "count" ∧
      empty.rewrite ⟨.call "count" [.raw "Distinct user_id"], "users"⟩ =
        .forwarded ⟨.call "count" [.raw "Distinct user_id"], "users"⟩ := by
  have hasks : AsksDistinct "Distinct".toList "Distinct user_id".toList :=
    ⟨by decide, [], ' ', "user_id".toList, by simp, .inl (by decide), by decide⟩
  exact (@rewrite_distinct empty [] "count" "users" _ _ _ rfl (.inl rfl) hasks
    (by decide +kernel)).1 (by decide +kernel)

/-- With the word in the form of a call, the number of distinct users is rolled up by a sum. -/
theorem rewrite_distinct_call :
    AsksDistinct "DISTINCT".toList "DISTINCT(user_id)".toList ∧
      ofText "count(DISTINCT(user_id))" = .call "count" [.call "distinct" [.column "user_id"]] ∧
      (ofText "count(DISTINCT(user_id))").shape = .count ∧
      empty.rewrite ⟨ofText "count(DISTINCT(user_id))", "users"⟩ =
        .rolled ⟨.call "sum" [.column "users"], "users"⟩ :=
  ⟨⟨by decide, [], '(', "user_id)".toList, by simp, .inr rfl, by decide⟩,
    by decide +kernel, by decide +kernel, by decide +kernel⟩

end RuleTable

end TimeRollup
