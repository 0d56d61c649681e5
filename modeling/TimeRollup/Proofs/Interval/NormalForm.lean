import TimeRollup.Proofs.Chain.Extension
import TimeRollup.Proofs.Interval.Terms
import TimeRollup.Statement

/-!
# Normal forms of intervals

A text is an interval exactly if its normal form is a list of terms with single spaces between them.  The
normal form is its own, and nothing but digits, small letters and those spaces stands in it.  So the
literal that it is written into ends with the quote that is written behind it.
-/

namespace TimeRollup

open TimeRollup.Text

namespace Text

/-! ## Words in lower case -/

theorem lowerChar_ne_nil (c : Char) : lowerChar c ≠ [] := by
  unfold lowerChar
  split_ifs
  · simp
  · simp
  · split <;> simp

theorem not_isBlank_of_mem_lowerChar {c d : Char} (hc : isBlank c = false)
    (h : d ∈ lowerChar c) : isBlank d = false := by
  rcases mem_lowerChar h with ⟨hascii, rfl⟩ | ⟨-, hd⟩ | ⟨hreached, -⟩ | ⟨rfl, -⟩
  · exact forall_ascii (P := fun c => isBlank c = false → isBlank c.toLower = false)
      (by decide) hascii hc
  · have htable : ∀ d ∈ ['i', '\u0307'], isBlank d = false :=
      List.all_iff_forall_prop.1 (by decide)
    exact htable d hd
  · exact (isPlain_iff.1 (isPlain_of_unreached hreached)).1
  · exact hc

/-- What a character becomes may depend on what is around it, but it is never nothing or blank. -/
theorem exists_lowerAfter_cons (before rest : List Char) {c : Char} (hc : isBlank c = false) :
    ∃ word, IsWord word ∧ lowerAfter before (c :: rest) = word ++ lowerAfter (c :: before) rest := by
  rw [lowerAfter]
  split
  · have hsigma : ∀ d ∈ ['σ', 'ς'], isBlank d = false := List.all_iff_forall_prop.1 (by decide)
    refine ⟨_, ⟨by simp, ?_⟩, rfl⟩
    split <;> simpa using hsigma _ (by simp)
  · exact ⟨_, ⟨lowerChar_ne_nil c, fun d hd => not_isBlank_of_mem_lowerChar hc hd⟩, rfl⟩

theorem exists_lowerAfter_append (before rest : List Char) {word : List Char} (hword : IsWord word) :
    ∃ lowered, IsWord lowered ∧
      lowerAfter before (word ++ rest) = lowered ++ lowerAfter (word.reverse ++ before) rest := by
  obtain ⟨hne, hblank⟩ := hword
  induction word generalizing before with
  | nil => exact absurd rfl hne
  | cons c word ih =>
    obtain ⟨hc, hblank⟩ := List.forall_mem_cons.1 hblank
    obtain ⟨first, hfirst, heq⟩ := exists_lowerAfter_cons before (word ++ rest) hc
    rw [List.cons_append, heq]
    cases word with
    | nil => exact ⟨first, hfirst, rfl⟩
    | cons d word =>
      obtain ⟨later, hlater, hrest⟩ := ih (c :: before) (List.cons_ne_nil d word) hblank
      refine ⟨first ++ later, ⟨by simp [hfirst.1], ?_⟩, by rw [hrest]; simp⟩
      exact List.forall_mem_append.2 ⟨hfirst.2, hlater.2⟩

/-- Words with spaces between them are as many words in lower case. -/
theorem exists_lowerAfter_joinWords (before : List Char) {ws : List (List Char)}
    (h : ∀ word ∈ ws, IsWord word) :
    ∃ lowered, lowered.length = ws.length ∧ (∀ word ∈ lowered, IsWord word) ∧
      lowerAfter before (joinWords ws) = joinWords lowered := by
  induction ws generalizing before with
  | nil => exact ⟨[], rfl, by simp, rfl⟩
  | cons word later ih =>
    obtain ⟨hword, hlater⟩ := List.forall_mem_cons.1 h
    cases later with
    | nil =>
      obtain ⟨lowered, hlowered, heq⟩ := exists_lowerAfter_append before [] hword
      refine ⟨[lowered], rfl, by simpa using hlowered, ?_⟩
      simpa [lowerAfter] using heq
    | cons next later =>
      obtain ⟨first, hfirst, heq⟩ :=
        exists_lowerAfter_append before (' ' :: joinWords (next :: later)) hword
      have hspace (before rest : List Char) :
          lowerAfter before (' ' :: rest) = ' ' :: lowerAfter (' ' :: before) rest := by
        rw [lowerAfter, if_neg (by decide)]
        rfl
      obtain ⟨lowered, hlength, hwords, hrest⟩ := ih (' ' :: (word.reverse ++ before)) hlater
      obtain ⟨second, more, rfl⟩ := List.exists_cons_of_length_eq_add_one hlength
      refine ⟨first :: second :: more, by simpa using hlength,
        List.forall_mem_cons.2 ⟨hfirst, hwords⟩, ?_⟩
      rw [joinWords_cons_cons, heq, hspace, hrest, joinWords_cons_cons]

end Text

/-! ## Text literals -/

namespace Sql

/-- The content of a text literal whose opening quote is behind us, and the text behind its closing
quote.  In the content two quotes stand for one. -/
def literalContent? : List Char → Option (List Char × List Char)
  | [] => none
  | '\'' :: '\'' :: rest => (literalContent? rest).map fun (content, after) => ('\'' :: content, after)
  | '\'' :: rest => some ([], rest)
  | c :: rest => (literalContent? rest).map fun (content, after) => (c :: content, after)

/-- Splits a text literal off the front of a text. -/
def takeLiteral? : List Char → Option (List Char × List Char)
  | '\'' :: rest => literalContent? rest
  | _ => none

/-- A text without a quote in it is closed by the quote behind it. -/
theorem takeLiteral?_quoted {content rest : List Char} (hcontent : '\'' ∉ content)
    (hrest : ∀ c ∈ rest.head?, c ≠ '\'') :
    takeLiteral? ('\'' :: (content ++ '\'' :: rest)) = some (content, rest) := by
  rw [takeLiteral?]
  induction content with
  | nil =>
    cases rest with
    | nil => rfl
    | cons c rest => simp [literalContent?, hrest c rfl]
  | cons c content ih =>
    obtain ⟨hc, hcontent⟩ := not_or.1 (mt List.mem_cons.2 hcontent)
    simp [literalContent?, Ne.symm hc, ih hcontent]

end Sql

namespace Interval

/-- In a normal form there is one space between two words and none around them. -/
theorem joinWords_words_normalForm (s : List Char) :
    joinWords (words (normalForm s)) = normalForm s := by
  obtain ⟨lowered, -, hwords, heq⟩ :=
    exists_lowerAfter_joinWords [] fun word (hword : word ∈ words s) => isWord_of_mem_words hword
  rw [normalForm, lower, heq, words_joinWords hwords]

@[simp]
theorem normalForm_normalForm (s : List Char) : normalForm (normalForm s) = normalForm s := by
  calc normalForm (normalForm s) = lower (joinWords (words (normalForm s))) := rfl
    _ = lower (normalForm s) := by rw [joinWords_words_normalForm]
    _ = normalForm s := lower_lower (joinWords (words s))

/-! ## The grammar of normal forms -/

/-- The units in the singular. -/
def singularNames : List (List Char × TimeUnit) :=
  [("microsecond".toList, .microsecond), ("millisecond".toList, .millisecond),
   ("second".toList, .second), ("sec".toList, .second), ("minute".toList, .minute),
   ("min".toList, .minute), ("hour".toList, .hour), ("day".toList, .day), ("week".toList, .week),
   ("month".toList, .month), ("year".toList, .year)]

/-- The word names the unit in the singular or in the plural. -/
def Names (name : List Char) (unit : TimeUnit) : Prop :=
  ∃ singular, (singular, unit) ∈ singularNames ∧ (name = singular ∨ name = singular ++ ['s'])

theorem unitOfName?_eq_some_iff {name : List Char} {unit : TimeUnit} :
    unitOfName? name = some unit ↔ Names name unit := by
  constructor
  · intro h
    have htable : ∀ entry ∈ unitNames, ∃ other ∈ singularNames,
        other.2 = entry.2 ∧ (entry.1 = other.1 ∨ entry.1 = other.1 ++ ['s']) := by
      decide +kernel
    obtain ⟨⟨singular, _⟩, hmem, rfl, hname⟩ := htable _ (mem_unitNames_of_unitOfName? h)
    exact ⟨singular, hmem, hname⟩
  · have htable : ∀ entry ∈ singularNames,
        unitOfName? entry.1 = some entry.2 ∧ unitOfName? (entry.1 ++ ['s']) = some entry.2 := by
      decide +kernel
    rintro ⟨singular, hmem, rfl | rfl⟩
    · exact (htable _ hmem).1
    · exact (htable _ hmem).2

/-- A count in decimal digits and the name of a unit, with at most one space between them. -/
structure TermText where
  digits : List Char
  space : List Char
  name : List Char
  unit : TimeUnit
  digits_ne_nil : digits ≠ []
  isDecimalDigit_digits : ∀ c ∈ digits, isDecimalDigit c = true
  space_eq : space = [] ∨ space = [' ']
  names : Names name unit

namespace TermText

variable (part : TermText)

def text : List Char :=
  part.digits ++ (part.space ++ part.name)

def term : Term :=
  ⟨part.digits, part.unit⟩

end TermText

/-- Terms with single spaces between them. -/
def IsNormal (s : List Char) : Prop :=
  ∃ parts : List TermText, parts ≠ [] ∧ s = joinWords (parts.map TermText.text)

theorem names_apart {name : List Char} {unit : TimeUnit} (h : Names name unit) :
    IsApart name unit :=
  isApart_of_mem_unitNames (mem_unitNames_of_unitOfName? (unitOfName?_eq_some_iff.2 h))

theorem not_isBlank_of_isDecimalDigit {c : Char} (h : isDecimalDigit c = true) :
    isBlank c = false := by
  rw [Bool.eq_false_iff]
  intro hblank
  simp [isDecimalDigit_eq_false_of_isBlank hblank] at h

theorem readTerms?_words_append (part : TermText) {rest : List Char}
    (hend : ∀ c ∈ rest.head?, isBlank c = true) :
    readTerms? (words (part.text ++ rest)) =
      (readTerms? (words rest)).map (part.term :: ·) := by
  obtain ⟨digits, space, name, unit, hne, hdigits, hspace, hname⟩ := part
  have hunit := unitOfName?_eq_some_iff.2 hname
  obtain ⟨⟨first, more, rfl, hfirst⟩, hblank, -⟩ := names_apart hname
  have hcount : IsWord digits := ⟨hne, fun c hc => not_isBlank_of_isDecimalDigit (hdigits c hc)⟩
  have hstop : ∀ c ∈ (first :: more).head?, isDecimalDigit c = false := by simpa using hfirst
  obtain ⟨digit, digits, rfl⟩ := List.exists_cons_of_ne_nil hne
  rcases hspace with rfl | rfl
  · have hword : IsWord ((digit :: digits) ++ first :: more) :=
      ⟨by simp, List.forall_mem_append.2 ⟨hcount.2, hblank⟩⟩
    have htake := takeWhile_run_append hdigits hstop
    have hdrop := dropWhile_run_append hdigits hstop
    rw [TermText.text, List.nil_append, words_append hword hend, readTerms?, htake, hdrop]
    simp only [hunit, TermText.term]
    cases readTerms? (words rest) <;> rfl
  · have hword : IsWord (first :: more) := ⟨by simp, hblank⟩
    have htake := @takeWhile_run_append isDecimalDigit (digit :: digits) [] hdigits (by simp)
    have hdrop := @dropWhile_run_append isDecimalDigit (digit :: digits) [] hdigits (by simp)
    rw [List.append_nil] at htake hdrop
    have hspace : isBlank ' ' = true := by decide
    have hwords : words ((digit :: digits) ++ ' ' :: (first :: more ++ rest)) =
        (digit :: digits) :: (first :: more) :: words rest := by
      rw [words_append hcount (by simpa using hspace), words_cons_of_isBlank hspace,
        words_append hword hend]
    have htext : (digit :: digits) ++ ([' '] ++ first :: more) ++ rest =
        (digit :: digits) ++ ' ' :: (first :: more ++ rest) := by simp
    rw [TermText.text, htext, hwords, readTerms?, htake, hdrop]
    simp only [hunit, TermText.term]
    cases readTerms? (words rest) <;> rfl

/-- The terms of a text in normal form are read from its words. -/
theorem readTerms?_words_joinWords (parts : List TermText) :
    readTerms? (words (joinWords (parts.map TermText.text))) = some (parts.map TermText.term) := by
  induction parts with
  | nil => rfl
  | cons part later ih =>
    cases later with
    | nil =>
      have hread := @readTerms?_words_append part [] (by simp)
      rw [List.append_nil] at hread
      rw [List.map_singleton, joinWords_singleton, hread]
      rfl
    | cons next later =>
      have hspace : isBlank ' ' = true := by decide
      rw [List.map_cons, List.map_cons, joinWords_cons_cons,
        readTerms?_words_append part (by simpa using hspace), words_cons_of_isBlank hspace,
        ← List.map_cons, ih]
      rfl

/-- Words that are read as terms are the words of a text in normal form. -/
theorem exists_parts_of_readTerms? {ws : List (List Char)} {terms : List Term}
    (h : readTerms? ws = some terms) :
    ∃ parts : List TermText, parts.map TermText.term = terms ∧
      (parts.map TermText.text).flatMap (' ' :: ·) = ws.flatMap (' ' :: ·) := by
  induction hlength : ws.length using Nat.strong_induction_on generalizing ws terms with
  | _ length ih =>
    cases ws with
    | nil =>
      obtain rfl : [] = terms := by simpa [readTerms?] using h
      exact ⟨[], rfl, rfl⟩
    | cons word later =>
      obtain ⟨digits, name, unit, more, hne, hdigits, hname, rfl, ⟨rfl, hmore⟩ | ⟨rfl, hapart⟩⟩ :=
        exists_of_readTerms?_cons_eq_some h
      · obtain ⟨parts, rfl, htexts⟩ := ih later.length (by simp [← hlength]) hmore rfl
        refine ⟨⟨digits, [], name, unit, hne, hdigits, .inl rfl, unitOfName?_eq_some_iff.1 hname⟩ ::
          parts, rfl, ?_⟩
        rw [List.map_cons, List.flatMap_cons, htexts]
        rfl
      · obtain ⟨beyond, rfl, hmore⟩ := hapart
        have hshorter : beyond.length < length := by
          simp only [← hlength, List.length_cons]
          omega
        obtain ⟨parts, rfl, htexts⟩ := ih beyond.length hshorter hmore rfl
        refine ⟨⟨word, [' '], name, unit, hne, hdigits, .inr rfl, unitOfName?_eq_some_iff.1 hname⟩ ::
          parts, rfl, ?_⟩
        rw [List.map_cons, List.flatMap_cons, htexts]
        simp [TermText.text]

theorem isNormal_of_isTermList {s : List Char} (hself : joinWords (words s) = s)
    (h : isTermList s = true) : IsNormal s := by
  unfold isTermList at h
  split at h
  · rename_i term terms hread
    obtain ⟨parts, hterms, htexts⟩ := exists_parts_of_readTerms? hread
    have hparts : parts ≠ [] := by
      rintro rfl
      simp at hterms
    have hwords : words s ≠ [] := by
      intro hempty
      rw [hempty, readTerms?] at hread
      simp at hread
    rw [flatMap_space_eq_joinWords (by simpa using hparts), flatMap_space_eq_joinWords hwords,
      hself] at htexts
    exact ⟨parts, hparts, (List.cons.inj htexts).2.symm⟩
  · simp at h

theorem isTermList_of_isNormal {s : List Char} (h : IsNormal s) : isTermList s = true := by
  obtain ⟨parts, hne, rfl⟩ := h
  obtain ⟨part, later, rfl⟩ := List.exists_cons_of_ne_nil hne
  rw [isTermList, readTerms?_words_joinWords]
  rfl

theorem isTermList_normalForm_iff {s : List Char} :
    isTermList (normalForm s) = true ↔ IsNormal (normalForm s) :=
  ⟨isNormal_of_isTermList (joinWords_words_normalForm s), isTermList_of_isNormal⟩

theorem exists_ofText_iff {s : String} :
    (∃ interval, ofText s = .ok interval) ↔ IsNormal (normalForm s.toList) := by
  rw [← isTermList_normalForm_iff]
  constructor
  · rintro ⟨interval, h⟩
    by_contra hnot
    rw [ofText, dif_neg hnot] at h
    simp at h
  · exact fun h => ⟨_, dif_pos h⟩

/-- An interval's text is read as the interval. -/
theorem ofText_text {s : String} {interval : Interval} (h : ofText s = .ok interval) :
    ofText interval.text = .ok interval := by
  have htext := text_of_ofText h
  obtain ⟨again, hagain⟩ := exists_ofText_iff.2 (show IsNormal (normalForm interval.text.toList) by
    rw [htext, String.toList_ofList, normalForm_normalForm]
    exact exists_ofText_iff.1 ⟨interval, h⟩)
  have hsame : again.text = interval.text := by
    rw [text_of_ofText hagain, htext, String.toList_ofList, normalForm_normalForm]
  rw [hagain]
  cases again
  cases interval
  cases hsame
  rfl

theorem isLower_of_names {name : List Char} {unit : TimeUnit} (h : Names name unit) :
    ∀ c ∈ name, c.isLower = true := by
  have htable : (unitNames.all fun entry => entry.1.all Char.isLower) = true := by decide +kernel
  have hmem := mem_unitNames_of_unitOfName? (unitOfName?_eq_some_iff.2 h)
  exact List.all_eq_true.1 (List.all_eq_true.1 htable _ hmem)

theorem IsNormal.mem {s : List Char} (h : IsNormal s) {c : Char} (hc : c ∈ s) :
    isDecimalDigit c = true ∨ c.isLower = true ∨ c = ' ' := by
  obtain ⟨parts, -, rfl⟩ := h
  rcases mem_joinWords hc with rfl | ⟨word, hword, hc⟩
  · exact .inr (.inr rfl)
  · obtain ⟨part, -, rfl⟩ := List.mem_map.1 hword
    rw [TermText.text, List.mem_append, List.mem_append] at hc
    rcases hc with hc | hc | hc
    · exact .inl (part.isDecimalDigit_digits c hc)
    · rcases part.space_eq with hspace | hspace
      · simp [hspace] at hc
      · exact .inr (.inr (by simpa [hspace] using hc))
    · exact .inr (.inl (isLower_of_names part.names c hc))

theorem IsNormal.not_mem_quote {s : List Char} (h : IsNormal s) : '\'' ∉ s := by
  intro hquote
  have hnone : isDecimalDigit '\'' = false ∧ '\''.isLower = false ∧ '\'' ≠ ' ' := by decide
  have hkind := h.mem hquote
  simp [hnone] at hkind

/-- The words of a normal form are runs of digits and small letters. -/
theorem IsNormal.mem_words {s word : List Char} (h : IsNormal s) (hself : joinWords (words s) = s)
    (hword : word ∈ words s) :
    word ≠ [] ∧ ∀ c ∈ word, isDecimalDigit c = true ∨ c.isLower = true := by
  obtain ⟨hne, hblank⟩ := isWord_of_mem_words hword
  refine ⟨hne, fun c hc => ?_⟩
  have hspace : c ≠ ' ' := by
    rintro rfl
    exact absurd (hblank ' ' hc) (by decide)
  have hmem := mem_joinWords_of_mem hword hc hspace
  rw [hself] at hmem
  simpa [hspace] using h.mem hmem

variable {s : String} {interval : Interval}

theorem isNormal_text (h : ofText s = .ok interval) : IsNormal interval.text.toList := by
  rw [text_of_ofText h, String.toList_ofList]
  exact exists_ofText_iff.1 ⟨interval, h⟩

theorem intervalLiteral_closed (h : ofText s = .ok interval) {rest : List Char}
    (hrest : ∀ c ∈ rest.head?, c ≠ '\'') :
    ∃ literal, (Statement.intervalLiteral (some interval)).toList ++ rest =
        "INTERVAL ".toList ++ literal ∧
      Sql.takeLiteral? literal = some (interval.text.toList, rest) := by
  refine ⟨'\'' :: (interval.text.toList ++ '\'' :: rest), ?_,
    Sql.takeLiteral?_quoted (isNormal_text h).not_mem_quote hrest⟩
  simp [Statement.intervalLiteral]

theorem bucketExpr_closed (h : ofText s = .ok interval) {select : Sql.Select}
    (hbucket : select.bucket = interval.text) (rest : List Char) :
    ∃ literal, select.bucketExpr.toList ++ rest = "time_bucket(".toList ++ literal ∧
      Sql.takeLiteral? literal =
        some (interval.text.toList, ", ".toList ++ select.timeColumn.toList ++ ")".toList ++ rest) := by
  refine ⟨'\'' :: (interval.text.toList ++ '\'' ::
    (", ".toList ++ select.timeColumn.toList ++ ")".toList ++ rest)), ?_,
    Sql.takeLiteral?_quoted (isNormal_text h).not_mem_quote (by simp)⟩
  have hexpr : select.bucketExpr =
      "time_bucket('" ++ interval.text ++ "', " ++ select.timeColumn ++ ")" := by
    rw [← hbucket]
    rfl
  simp [hexpr]

/-- A text is an interval exactly if its normal form is a list of terms with single spaces between them.
The interval keeps the normal form, which reads back as the same interval and consists of runs of digits
and small letters with single spaces between them.  In the policies and the ad-hoc selections that it is
written into, a reader of text literals comes to the end of the literal at the quote behind it. -/
theorem exists_ofText_iff_isNormal (s : String) :
    ((∃ interval, ofText s = .ok interval) ↔ IsNormal (normalForm s.toList)) ∧
      ∀ interval, ofText s = .ok interval →
        interval.text = String.ofList (normalForm s.toList) ∧
        ofText interval.text = .ok interval ∧
        (∃ ws : List (List Char), interval.text.toList = joinWords ws ∧ ∀ word ∈ ws,
          word ≠ [] ∧ ∀ c ∈ word, isDecimalDigit c = true ∨ c.isLower = true) ∧
        (∀ rest : List Char, (∀ c ∈ rest.head?, c ≠ '\'') →
          ∃ literal, (Statement.intervalLiteral (some interval)).toList ++ rest =
              "INTERVAL ".toList ++ literal ∧
            Sql.takeLiteral? literal = some (interval.text.toList, rest)) ∧
        ∀ (builder : ChainBuilder) (view : View) (select : Sql.Select),
          (builder.adHocRollup view interval).result = .ok select → ∀ rest : List Char,
            ∃ literal, select.bucketExpr.toList ++ rest = "time_bucket(".toList ++ literal ∧
              Sql.takeLiteral? literal = some (interval.text.toList,
                ", ".toList ++ select.timeColumn.toList ++ ")".toList ++ rest) := by
  refine ⟨exists_ofText_iff, fun interval h => ⟨text_of_ofText h, ofText_text h, ?_, ?_, ?_⟩⟩
  · have hself : joinWords (words interval.text.toList) = interval.text.toList := by
      rw [text_of_ofText h, String.toList_ofList, joinWords_words_normalForm]
    exact ⟨words interval.text.toList, hself.symm, fun word hword =>
      (isNormal_text h).mem_words hself hword⟩
  · exact fun rest hrest => intervalLiteral_closed h hrest
  · intro builder view select hselect rest
    obtain ⟨-, -, hfields⟩ := ChainBuilder.result_adHocRollup_eq_ok_iff.1 hselect
    exact bucketExpr_closed h (by rw [hfields]) rest

open ChainBuilder

def dayAndHalf : Interval :=
  ⟨"1 day 12hours", by decide +kernel⟩

theorem exists_ofText_iff_isNormal_dayAndHalf :
    ofText " 1\u00a0Day\t12HOURS " = .ok dayAndHalf ∧
      IsNormal (normalForm " 1\u00a0Day\t12HOURS ".toList) ∧
      ofText dayAndHalf.text = .ok dayAndHalf ∧
      (∃ literal, (Statement.intervalLiteral (some dayAndHalf)).toList ++ [')'] =
          "INTERVAL ".toList ++ literal ∧
        Sql.takeLiteral? literal = some (dayAndHalf.text.toList, [')'])) ∧
      ∃ select, (sketchBuilder.adHocRollup (finestView trades .hour) dayAndHalf).result =
          .ok select ∧
        ∃ literal, select.bucketExpr.toList ++ [] = "time_bucket(".toList ++ literal ∧
          Sql.takeLiteral? literal = some (dayAndHalf.text.toList,
            ", ".toList ++ select.timeColumn.toList ++ ")".toList ++ []) := by
  have hread : ofText " 1\u00a0Day\t12HOURS " = .ok dayAndHalf := by decide +kernel
  obtain ⟨hiff, hall⟩ := exists_ofText_iff_isNormal " 1\u00a0Day\t12HOURS "
  obtain ⟨-, hagain, -, hliteral, hbucket⟩ := hall dayAndHalf hread
  have hselect : (sketchBuilder.adHocRollup (finestView trades .hour) dayAndHalf).result =
      .ok ⟨"1 day 12hours", "ts", sketchBuilder.rules.coarserItems trades.selectItems,
        "ticks_per_hour", none, ["symbol"]⟩ := by decide +kernel
  exact ⟨hread, hiff.1 ⟨_, hread⟩, hagain, hliteral _ (by simp), _, hselect,
    hbucket _ _ _ hselect []⟩

end Interval

end TimeRollup
