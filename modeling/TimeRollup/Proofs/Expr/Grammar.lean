import Mathlib.Data.List.Forall2
import TimeRollup.Proofs.Expr.Reparse

/-!
# The grammar of expressions

A text stands for the star, a constant, a column reference or a call, if it has the form of one, and
otherwise for itself.  No text has two of these forms, and the arguments of a call are shorter than the
call, so every text stands for exactly one expression, and that is the one that is read.
-/

namespace TimeRollup.Expr

open TimeRollup.Text TimeRollup.Sql

/-! ## Constants -/

/-- A run of the digits from 0 to 9. -/
def IsDigits (s : List Char) : Prop :=
  s ≠ [] ∧ ∀ c ∈ s, c.isDigit = true

/-- A text in single quotes without a quote in it, or a number, perhaps with a minus and a fraction. -/
inductive IsConstant : List Char → Prop
  | quoted {content : List Char} (h : '\'' ∉ content) : IsConstant ('\'' :: (content ++ ['\'']))
  | number {sign whole fraction : List Char} (hsign : sign = [] ∨ sign = ['-'])
      (hwhole : IsDigits whole)
      (hfraction : fraction = [] ∨ ∃ digits, IsDigits digits ∧ fraction = '.' :: digits) :
      IsConstant (sign ++ (whole ++ fraction))

theorem isQuotedText_iff {s : List Char} :
    isQuotedText s = true ↔ ∃ content, '\'' ∉ content ∧ s = '\'' :: (content ++ ['\'']) := by
  constructor
  · intro h
    unfold isQuotedText at h
    split at h
    · rename_i rest
      rw [beq_iff_eq] at h
      refine ⟨rest.takeWhile (· != '\''), fun hquote => ?_, ?_⟩
      · simpa using List.mem_takeWhile_imp hquote
      · rw [← h, List.takeWhile_append_dropWhile]
    · simp at h
  · rintro ⟨content, hcontent, rfl⟩
    have hinside : ∀ c ∈ content, (c != '\'') = true := by
      intro c hc
      simp only [bne_iff_ne]
      rintro rfl
      exact hcontent hc
    rw [isQuotedText, dropWhile_run_append hinside (by simp), beq_self_eq_true]

theorem isUnsignedNumber_iff {s : List Char} :
    isUnsignedNumber s = true ↔ ∃ whole fraction, IsDigits whole ∧
      (fraction = [] ∨ ∃ digits, IsDigits digits ∧ fraction = '.' :: digits) ∧
        s = whole ++ fraction := by
  constructor
  · intro h
    have htext := List.takeWhile_append_dropWhile (p := Char.isDigit) (l := s)
    have hwhole : ∀ c ∈ s.takeWhile Char.isDigit, c.isDigit = true :=
      fun c => List.mem_takeWhile_imp
    unfold isUnsignedNumber at h
    split at h
    · rename_i first digits htake hdrop
      rw [htake] at hwhole
      rw [htake, hdrop] at htext
      exact ⟨first :: digits, [], ⟨by simp, hwhole⟩, .inl rfl, htext.symm⟩
    · rename_i first digits fraction htake hdrop
      rw [htake] at hwhole
      rw [htake, hdrop] at htext
      simp only [Bool.and_eq_true, Bool.not_eq_true', List.isEmpty_eq_false_iff,
        List.all_eq_true] at h
      exact ⟨first :: digits, '.' :: fraction, ⟨by simp, hwhole⟩, .inr ⟨fraction, h, rfl⟩,
        htext.symm⟩
    · simp at h
  · rintro ⟨whole, fraction, ⟨hne, hwhole⟩, hfraction, rfl⟩
    have hstop : ∀ c ∈ fraction.head?, c.isDigit = false := by
      rcases hfraction with rfl | ⟨digits, -, rfl⟩
      · simp
      · rintro _ ⟨⟩
        decide
    rw [isUnsignedNumber, takeWhile_run_append hwhole hstop, dropWhile_run_append hwhole hstop]
    obtain ⟨first, whole, rfl⟩ := List.exists_cons_of_ne_nil hne
    rcases hfraction with rfl | ⟨digits, ⟨hne', hdigits⟩, rfl⟩
    · rfl
    · simpa [List.isEmpty_eq_false_iff, hne'] using hdigits

theorem isLiteral_iff {s : List Char} : isLiteral s = true ↔ IsConstant s := by
  rw [isLiteral, Bool.or_eq_true, isQuotedText_iff]
  constructor
  · rintro (⟨content, hcontent, rfl⟩ | h)
    · exact .quoted hcontent
    · unfold isNumeral at h
      split at h
      · obtain ⟨whole, fraction, hwhole, hfraction, rfl⟩ := isUnsignedNumber_iff.1 h
        exact @IsConstant.number ['-'] whole fraction (.inr rfl) hwhole hfraction
      · obtain ⟨whole, fraction, hwhole, hfraction, rfl⟩ := isUnsignedNumber_iff.1 h
        exact @IsConstant.number [] whole fraction (.inl rfl) hwhole hfraction
  · rintro (hcontent | ⟨rfl | rfl, hwhole, hfraction⟩)
    · exact .inl ⟨_, hcontent, rfl⟩
    · right
      have hnumber := isUnsignedNumber_iff.2 ⟨_, _, hwhole, hfraction, rfl⟩
      obtain ⟨first, digits, rfl⟩ := List.exists_cons_of_ne_nil hwhole.1
      have hminus : first ≠ '-' := by
        rintro rfl
        exact absurd (hwhole.2 '-' List.mem_cons_self) (by decide)
      simpa [isNumeral, hminus] using hnumber
    · exact .inr (isUnsignedNumber_iff.2 ⟨_, _, hwhole, hfraction, rfl⟩)

/-! ## Calls -/

/-- An argument of a call with blanks around it. -/
structure PaddedArgument where
  before : List Char
  argument : List Char
  after : List Char
  isBlank_before : ∀ c ∈ before, isBlank c = true
  isBlank_after : ∀ c ∈ after, isBlank c = true
  isProper_argument : IsProperArgument argument

namespace PaddedArgument

variable (padded : PaddedArgument)

def text : List Char :=
  padded.before ++ padded.argument ++ padded.after

theorem trim_text : trim padded.text = trim padded.argument := by
  rw [text, List.append_assoc, trim_append_of_isBlank padded.isBlank_before,
    trim_append_of_isBlank_right padded.isBlank_after]

theorem isProper_text : IsProperArgument padded.text := by
  obtain ⟨hargument, c, hc, hblank⟩ := padded.isProper_argument
  refine ⟨?_, c, by simp [text, hc], hblank⟩
  rw [text, IsArgument, List.foldlM_append, List.foldlM_append,
    Place.foldlM_step?_of_isSign fun c hc => isSign_of_isBlank (padded.isBlank_before c hc),
    Option.bind_eq_bind, Option.bind_some, hargument, Option.bind_some,
    Place.foldlM_step?_of_isSign fun c hc => isSign_of_isBlank (padded.isBlank_after c hc)]

end PaddedArgument

/-- A name, an opening parenthesis, arguments with commas between them and a closing parenthesis.  Blanks
may stand around the arguments, and space in front of the parenthesis and of all arguments. -/
structure CallText where
  function : List Char
  gap : List Char
  inner : List Char
  args : List PaddedArgument
  isIdentifier_function : isIdentifier function = true
  isSpace_gap : ∀ c ∈ gap, isSpace c = true
  isSpace_inner : ∀ c ∈ inner, isSpace c = true

namespace CallText

variable (parts : CallText)

def text : List Char :=
  parts.function ++ (parts.gap ++ '(' ::
    (parts.inner ++ ([','].intercalate (parts.args.map PaddedArgument.text) ++ [')'])))

/-- The arguments between the commas, the first without the space in front of it. -/
def pieces : List (List Char) :=
  match parts.args with
  | [] => []
  | padded :: later => skipSpace padded.text :: later.map PaddedArgument.text

theorem isProper_skipSpace {s : List Char} (h : IsProperArgument s) :
    IsProperArgument (skipSpace s) := by
  obtain ⟨hargument, c, hc, hblank⟩ := h
  have htext := takeWhile_append_skipSpace s
  have hspace : ∀ d ∈ s.takeWhile isSpace, isBlank d = true :=
    fun d hd => isBlank_of_isSpace (List.mem_takeWhile_imp hd)
  rw [← htext] at hargument hc
  constructor
  · rwa [IsArgument, List.foldlM_append,
      Place.foldlM_step?_of_isSign fun d hd => isSign_of_isBlank (hspace d hd)] at hargument
  · refine ⟨c, (List.mem_append.1 hc).resolve_left fun hfront => ?_, hblank⟩
    simp [hspace c hfront] at hblank

/-- A text of this form is a call of its pieces. -/
theorem isCall : IsCall parts.function parts.pieces parts.text := by
  obtain ⟨function, gap, inner, args, hfunction, hgap, hinner⟩ := parts
  cases args with
  | nil => exact ⟨hfunction, by simp [pieces], by simp [pieces], gap, inner, hgap, hinner, rfl⟩
  | cons padded later =>
    have htext := takeWhile_append_skipSpace padded.text
    refine ⟨hfunction, ?_, ?_, gap, inner ++ padded.text.takeWhile isSpace, hgap, ?_, ?_⟩
    · refine List.forall_mem_cons.2 ⟨isProper_skipSpace padded.isProper_text, ?_⟩
      simpa using fun other _ => other.isProper_text
    · simpa [pieces] using (skipSpace_eq_iff.1 (Eq.refl (skipSpace padded.text))).2
    · intro c hc
      rcases List.mem_append.1 hc with hc | hc
      · exact hinner c hc
      · exact List.mem_takeWhile_imp hc
    · simp only [text, pieces, List.map_cons, intercalate_comma_cons]
      nth_rewrite 1 [← htext]
      simp

theorem map_parse_pieces :
    parts.pieces.map parse = parts.args.map fun padded => parse padded.argument := by
  have hpadded (padded : PaddedArgument) : parse padded.text = parse padded.argument :=
    parse_congr padded.trim_text
  unfold pieces
  cases parts.args with
  | nil => rfl
  | cons padded later =>
    have hspace : ∀ c ∈ padded.text.takeWhile isSpace, isBlank c = true :=
      fun c hc => isBlank_of_isSpace (List.mem_takeWhile_imp hc)
    have hfirst : parse (skipSpace padded.text) = parse padded.text := by
      apply parse_congr
      nth_rewrite 2 [← takeWhile_append_skipSpace padded.text]
      exact (trim_append_of_isBlank hspace _).symm
    simp [hfirst, hpadded, Function.comp_def]

/-- A text that is left as it is by trimming and has this form is read as a call. -/
theorem parse_of_trim_eq {s : List Char} (h : trim s = parts.text) :
    parse s = .call (String.ofList (lower parts.function))
      (parts.args.map fun padded => parse padded.argument) := by
  rw [parse_eq_call (h ▸ parts.isCall.call?_eq), map_parse_pieces]

end CallText

/-- An argument and the blanks around it. -/
theorem exists_padded {s : List Char} (h : IsProperArgument s) :
    ∃ padded : PaddedArgument, padded.text = s ∧ padded.argument = trim s := by
  obtain ⟨before, after, htext, hbefore, hafter⟩ := exists_eq_append_trim s
  obtain ⟨hargument, c, hc, hblank⟩ := h
  have hmem : c ∈ trim s := by
    rw [htext] at hc
    simp only [List.mem_append] at hc
    rcases hc with (hc | hc) | hc
    · simp [hbefore c hc] at hblank
    · exact hc
    · simp [hafter c hc] at hblank
  exact ⟨⟨before, trim s, after, hbefore, hafter, hargument.trim, c, hmem, hblank⟩, htext.symm, rfl⟩

theorem exists_padded_of_forall {args : List (List Char)} (h : ∀ arg ∈ args, IsProperArgument arg) :
    ∃ padded : List PaddedArgument, padded.map PaddedArgument.text = args ∧
      padded.map PaddedArgument.argument = args.map trim := by
  induction args with
  | nil => exact ⟨[], rfl, rfl⟩
  | cons arg args ih =>
    obtain ⟨harg, hlater⟩ := List.forall_mem_cons.1 h
    obtain ⟨padded, htext, hargument⟩ := exists_padded harg
    obtain ⟨later, htexts, harguments⟩ := ih hlater
    exact ⟨padded :: later, by simp [htext, htexts], by simp [hargument, harguments]⟩

/-- Every call has this form, with the blanks around its arguments apart. -/
theorem IsCall.exists_callText {function s : List Char} {args : List (List Char)}
    (h : IsCall function args s) :
    ∃ parts : CallText, s = parts.text ∧ parts.function = function ∧
      parts.args.map PaddedArgument.argument = args.map trim := by
  obtain ⟨hfunction, hproper, -, gap, inner, hgap, hinner, htext⟩ := h
  obtain ⟨padded, htexts, harguments⟩ := exists_padded_of_forall hproper
  exact ⟨⟨function, gap, inner, padded, hfunction, hgap, hinner⟩, by rw [htext, ← htexts]; rfl, rfl,
    harguments⟩

/-! ## One form only -/

/-- Nothing that a column reference starts with starts a constant. -/
theorem not_isNameStart_of_isDigit {c : Char} (h : c.isDigit = true) : isNameStart c = false :=
  forall_ascii (P := fun c => c.isDigit = true → isNameStart c = false) (by decide +kernel)
    (toNat_lt_of_isDigit h) h

theorem IsConstant.exists_eq_cons {s : List Char} (h : IsConstant s) :
    ∃ c rest, s = c :: rest ∧ (c = '\'' ∨ c = '-' ∨ c.isDigit = true) := by
  obtain @⟨content, -⟩ | @⟨sign, whole, fraction, hsign, ⟨hne, hdigits⟩, -⟩ := h
  · exact ⟨'\'', _, rfl, .inl rfl⟩
  · obtain ⟨first, whole, rfl⟩ := List.exists_cons_of_ne_nil hne
    rcases hsign with rfl | rfl
    · exact ⟨first, _, rfl, .inr (.inr (hdigits first List.mem_cons_self))⟩
    · exact ⟨'-', _, rfl, .inr (.inl rfl)⟩

theorem IsDigits.exists_eq_concat {s : List Char} (h : IsDigits s) :
    ∃ front c, s = front ++ [c] ∧ c.isDigit = true := by
  obtain ⟨front, c, rfl⟩ := (List.eq_nil_or_concat' s).resolve_left h.1
  exact ⟨front, c, rfl, h.2 c (by simp)⟩

theorem IsConstant.exists_eq_concat {s : List Char} (h : IsConstant s) :
    ∃ front c, s = front ++ [c] ∧ (c = '\'' ∨ c.isDigit = true) := by
  obtain @⟨content, -⟩ | @⟨sign, whole, fraction, -, hwhole, rfl | ⟨digits, hdigits, rfl⟩⟩ := h
  · exact ⟨'\'' :: content, '\'', rfl, .inl rfl⟩
  · obtain ⟨front, c, rfl, hc⟩ := hwhole.exists_eq_concat
    exact ⟨sign ++ front, c, by simp, .inr hc⟩
  · obtain ⟨front, c, rfl, hc⟩ := hdigits.exists_eq_concat
    exact ⟨sign ++ (whole ++ '.' :: front), c, by simp, .inr hc⟩

theorem call?_concat_of_ne {front : List Char} {c : Char} (h : c ≠ ')') :
    call? (front ++ [c]) = none := by
  rw [Option.eq_none_iff_forall_ne_some]
  rintro ⟨function, args⟩ hcall
  have hlast := (isCall_of_call? hcall).getLast?_eq
  rw [List.getLast?_concat, Option.some.injEq] at hlast
  exact h hlast

theorem call?_of_isConstant {s : List Char} (h : IsConstant s) : call? s = none := by
  obtain ⟨front, c, rfl, hc⟩ := h.exists_eq_concat
  apply call?_concat_of_ne
  rintro rfl
  revert hc
  decide

theorem call?_of_isColumn {s : List Char} (h : IsColumn s) : call? s = none := by
  obtain ⟨front, c, rfl, hc⟩ := h.exists_eq_concat
  apply call?_concat_of_ne
  rintro rfl
  revert hc
  decide

theorem not_isConstant_of_isColumn {s : List Char} (h : IsColumn s) : ¬ IsConstant s := by
  intro hconstant
  obtain ⟨c, rest, rfl, hc⟩ := h.exists_eq_cons
  obtain ⟨d, rest', hcons, hd⟩ := hconstant.exists_eq_cons
  obtain ⟨rfl, rfl⟩ := List.cons.inj hcons
  rcases hd with rfl | rfl | hdigit
  · revert hc
    decide
  · revert hc
    decide
  · rcases hc with rfl | hstart
    · simp at hdigit
    · simp [not_isNameStart_of_isDigit hdigit] at hstart

theorem IsConstant.ne_star {s : List Char} (h : IsConstant s) : s ≠ ['*'] := by
  rintro rfl
  obtain ⟨c, rest, hcons, hc⟩ := h.exists_eq_cons
  obtain ⟨rfl, -⟩ := List.cons.inj hcons
  revert hc
  decide

theorem ne_star_of_isColumn {s : List Char} (h : IsColumn s) : s ≠ ['*'] := by
  rintro rfl
  obtain ⟨c, rest, hcons, hc⟩ := h.exists_eq_cons
  obtain ⟨rfl, -⟩ := List.cons.inj hcons
  revert hc
  decide

theorem ofAtom_of_isConstant {s : List Char} (h : IsConstant s) :
    ofAtom s = .literal (String.ofList s) := by
  rw [ofAtom, if_neg h.ne_star, if_pos (isLiteral_iff.2 h)]

theorem ofAtom_of_isColumn {s : List Char} (h : IsColumn s) :
    ofAtom s = .column (String.ofList s) := by
  rw [ofAtom, if_neg (ne_star_of_isColumn h), if_neg (mt isLiteral_iff.1 (not_isConstant_of_isColumn h)),
    if_pos (isSome_columnParts?_iff.2 h)]

/-! ## What a text stands for -/

/-- The text is the star, a constant, a column reference or a call. -/
def HasForm (s : List Char) : Prop :=
  s = ['*'] ∨ IsConstant s ∨ IsColumn s ∨ ∃ parts : CallText, s = parts.text

/-- A text without blanks around it stands for an expression. -/
inductive Denotes : List Char → Expr → Prop
  | star : Denotes ['*'] .star
  | literal {s : List Char} (h : IsConstant s) : Denotes s (.literal (String.ofList s))
  | column {s : List Char} (h : IsColumn s) : Denotes s (.column (String.ofList s))
  | call (parts : CallText) {args : List Expr}
      (h : List.Forall₂ (fun padded arg => Denotes (trim padded.argument) arg) parts.args args) :
      Denotes parts.text (.call (String.ofList (lower parts.function)) args)
  | raw {s : List Char} (h : ¬ HasForm s) : Denotes s (.raw (String.ofList s))

theorem call?_eq_none_of_not_hasForm {s : List Char} (h : ¬ HasForm s) : call? s = none := by
  rw [Option.eq_none_iff_forall_ne_some]
  rintro ⟨function, args⟩ hcall
  obtain ⟨parts, htext, -⟩ := (isCall_of_call? hcall).exists_callText
  exact h (.inr (.inr (.inr ⟨parts, htext⟩)))

/-- A text is read as an expression that it stands for. -/
theorem parse_denotes (s : List Char) : Denotes (trim s) (parse s) := by
  refine parse_induction (motive := fun s e => Denotes (trim s) e) ?_ ?_ s
  · intro s hcall
    unfold ofAtom
    split_ifs with hstar hliteral hcolumn
    · rw [hstar]
      exact .star
    · exact .literal (isLiteral_iff.1 hliteral)
    · exact .column (isSome_columnParts?_iff.1 hcolumn)
    · refine .raw ?_
      rintro (h | h | h | ⟨parts, h⟩)
      · exact hstar h
      · exact hliteral (isLiteral_iff.2 h)
      · exact hcolumn (isSome_columnParts?_iff.2 h)
      · simp [h, parts.isCall.call?_eq] at hcall
  · intro s function args hcall ih
    obtain ⟨parts, htext, rfl, harguments⟩ := hcall.exists_callText
    rw [htext]
    refine .call parts ?_
    have hpieces : List.Forall₂ (fun argument arg => Denotes (trim argument) arg)
        (args.map trim) (args.map parse) := by
      rw [List.forall₂_map_left_iff, List.forall₂_map_right_iff, List.forall₂_same]
      intro arg harg
      rw [trim_trim]
      exact ih arg harg
    rwa [← harguments, List.forall₂_map_left_iff] at hpieces

/-- A text stands for nothing but the expression that it is read as. -/
theorem parse_eq_of_denotes {t : List Char} {e : Expr} (h : Denotes t e) :
    ∀ s, trim s = t → parse s = e := by
  refine @Denotes.rec (fun t e _ => ∀ s, trim s = t → parse s = e)
    (fun args exprs _ => args.map (fun padded => parse padded.argument) = exprs)
    ?star ?literal ?column ?call ?raw ?nil ?cons t e h
  case star =>
    intro s hs
    rw [parse_eq_atom (by rw [hs]; rfl), hs]
    rfl
  case literal =>
    intro t hconstant s hs
    rw [parse_eq_atom (by rw [hs, call?_of_isConstant hconstant]), hs,
      ofAtom_of_isConstant hconstant]
  case column =>
    intro t hcolumn s hs
    rw [parse_eq_atom (by rw [hs, call?_of_isColumn hcolumn]), hs, ofAtom_of_isColumn hcolumn]
  case call =>
    intro parts args _ ih s hs
    rw [parts.parse_of_trim_eq hs, ih]
  case raw =>
    intro t hform s hs
    have hcall := call?_eq_none_of_not_hasForm hform
    rw [HasForm, not_or, not_or, not_or] at hform
    obtain ⟨hstar, hconstant, hcolumn, -⟩ := hform
    rw [parse_eq_atom (by rw [hs, hcall]), hs, ofAtom, if_neg hstar,
      if_neg (mt isLiteral_iff.1 hconstant), if_neg (mt isSome_columnParts?_iff.1 hcolumn)]
  case nil => rfl
  case cons =>
    intro padded arg later args _ _ hfirst hlater
    rw [List.map_cons, hfirst padded.argument rfl, hlater]

theorem parse_eq_iff_denotes {s : List Char} {e : Expr} : parse s = e ↔ Denotes (trim s) e := by
  constructor
  · rintro rfl
    exact parse_denotes s
  · exact fun h => parse_eq_of_denotes h s rfl

theorem CallText.trim_text (parts : CallText) : trim parts.text = parts.text := by
  have hfunction := isPlain_of_isIdentifier parts.isIdentifier_function
  cases hname : parts.function with
  | nil =>
    have hempty := parts.isIdentifier_function
    simp [hname, isIdentifier, takeName?] at hempty
  | cons c rest =>
    have hc : isBlank c = false := (isPlain_iff.1 (hfunction c (by simp [hname]))).1
    have htext := @trim_eq_self c ')' (rest ++ (parts.gap ++ '(' ::
      (parts.inner ++ [','].intercalate (parts.args.map PaddedArgument.text)))) hc (by decide)
    simpa [text, hname] using htext

theorem parse_eq_raw_iff {s : List Char} {text : String} :
    parse s = .raw text ↔ text = String.ofList (trim s) ∧ ¬ HasForm (trim s) := by
  rw [parse_eq_iff_denotes]
  generalize trim s = t
  constructor
  · intro h
    cases h with
    | raw hform => exact ⟨rfl, hform⟩
  · rintro ⟨rfl, hform⟩
    exact .raw hform

theorem exists_callText_of_parse {s : List Char} {function : String} {args : List Expr}
    (h : parse s = .call function args) :
    ∃ parts : CallText, trim s = parts.text ∧ function = String.ofList (lower parts.function) ∧
      args = parts.args.map (fun padded => parse padded.argument) ∧
        ∀ padded ∈ parts.args, trim padded.argument = padded.argument := by
  cases hcall : call? (trim s) with
  | none =>
    rw [parse_eq_atom hcall] at h
    unfold ofAtom at h
    split_ifs at h
  | some found =>
    obtain ⟨name, arguments⟩ := found
    obtain ⟨parts, htext, rfl, harguments⟩ := (isCall_of_call? hcall).exists_callText
    obtain ⟨rfl, rfl⟩ := Expr.call.inj (h.symm.trans (parts.parse_of_trim_eq htext))
    refine ⟨parts, htext, rfl, rfl, fun padded hpadded => ?_⟩
    have hargument : padded.argument ∈ arguments.map trim :=
      harguments ▸ List.mem_map_of_mem hpadded
    obtain ⟨argument, -, htrim⟩ := List.mem_map.1 hargument
    rw [← htrim, trim_trim]

/-- Every text is read as the one expression that it stands for.  A call is read as its name, in lower
case, and what its arguments are read as, and what is read as a call is one.  Only a text that has no
form is left as it is, without the blanks around it. -/
theorem ofText_eq_iff_denotes :
    (∀ (s : String) (e : Expr), ofText s = e ↔ Denotes (trim s.toList) e) ∧
      (∀ parts : CallText, ofText (String.ofList parts.text) =
        .call (String.ofList (lower parts.function))
          (parts.args.map fun padded => parse padded.argument)) ∧
      (∀ (s function : String) (args : List Expr), ofText s = .call function args →
        ∃ parts : CallText, trim s.toList = parts.text ∧
          function = String.ofList (lower parts.function) ∧
          args = parts.args.map (fun padded => parse padded.argument) ∧
          ∀ padded ∈ parts.args, trim padded.argument = padded.argument) ∧
      ∀ s text : String, ofText s = .raw text ↔
        text = String.ofList (trim s.toList) ∧ ¬ HasForm (trim s.toList) := by
  refine ⟨fun s e => parse_eq_iff_denotes, fun parts => ?_, fun s function args h => ?_,
    fun s text => parse_eq_raw_iff⟩
  · refine parts.parse_of_trim_eq ?_
    rw [String.toList_ofList, parts.trim_text]
  · exact exists_callText_of_parse h

theorem ofText_eq_iff_denotes_coalesce :
    ofText " COALESCE\t( sum(price)\u00a0, f(',', (1, 2)) ) " =
        .call "coalesce" [.call "sum" [.column "price"], .call "f" [.literal "','", .raw "(1, 2)"]] ∧
      ∃ parts : CallText, trim " COALESCE\t( sum(price)\u00a0, f(',', (1, 2)) ) ".toList = parts.text ∧
        "coalesce" = String.ofList (lower parts.function) ∧
        [.call "sum" [.column "price"], .call "f" [.literal "','", .raw "(1, 2)"]] =
          parts.args.map (fun padded => parse padded.argument) ∧
        ∀ padded ∈ parts.args, trim padded.argument = padded.argument := by
  have hread : ofText " COALESCE\t( sum(price)\u00a0, f(',', (1, 2)) ) " =
      .call "coalesce" [.call "sum" [.column "price"], .call "f" [.literal "','", .raw "(1, 2)"]] := by
    decide +kernel
  exact ⟨hread, ofText_eq_iff_denotes.2.2.1 _ _ _ hread⟩

/-- A form feed is no space to the reader: in front of a parenthesis it makes a call raw text. -/
theorem not_parse_call_formFeed :
    ¬ ∀ function gap argument : List Char, isIdentifier function = true →
      (∀ c ∈ gap, c ∈ [' ', '\t', '\n', '\x0c', '\r']) → IsProperArgument argument →
        parse (function ++ (gap ++ '(' :: (argument ++ [')']))) =
          .call (String.ofList (lower function)) [parse argument] := by
  intro h
  have hproper : IsProperArgument ['a'] := ⟨by decide, 'a', by decide, by decide⟩
  have hcall := h ['f'] ['\x0c'] ['a'] (by decide +kernel) (by simp) hproper
  exact absurd hcall (by decide +kernel)

end TimeRollup.Expr
