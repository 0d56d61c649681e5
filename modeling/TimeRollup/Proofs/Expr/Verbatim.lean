import TimeRollup.Proofs.Expr.Reparse
import TimeRollup.Proofs.Text.Quotes

/-!
# What reading keeps of a text

An expression is written as the text it was read from, but for blank characters around arguments
and the case of function names.  Neither matters outside of quotes.  Arguments are cut at commas
outside of single quotes, whether or not the comma stands in double quotes, so this holds with
single quotes alone, and with double quotes as long as no comma, and no single quote, stands in
them.
-/

namespace TimeRollup.Expr

open TimeRollup.Text TimeRollup.Sql

/-- Neither a comma nor a single quote stands in double quotes. -/
def QuotesNoSeparator (signs : List Char) (state : Option Char) (s : List Char) : Prop :=
  ∀ c, (some '"', c) ∈ quoteMarks signs state s → c ≠ ',' ∧ c ≠ '\''

theorem Place.quoted_of_step? {place next : Place} {c : Char} (h : place.step? c = some next) :
    next.quoted = if c = '\'' then !place.quoted else place.quoted := by
  obtain ⟨depth, quoted⟩ := place
  simp only [step?] at h
  grind

theorem Place.mem_of_foldlM_step? {place : Place} {s : List Char} (hquoted : place.quoted = true)
    (h : s.foldlM step? place = some .outside) : '\'' ∈ s := by
  induction s generalizing place with
  | nil =>
    obtain rfl : place = .outside := by simpa using h
    simp [outside] at hquoted
  | cons c rest ih =>
    by_cases hc : c = '\''
    · rw [hc]
      exact List.mem_cons_self
    · rw [List.foldlM_cons, Option.bind_eq_bind, Option.bind_eq_some_iff] at h
      obtain ⟨next, hstep, hrest⟩ := h
      have hnext := quoted_of_step? hstep
      rw [if_neg hc, hquoted] at hnext
      exact List.mem_cons_of_mem c (ih hnext hrest)

/-- Double quotes that are open at the end of an argument are not closed behind the next comma. -/
theorem not_mem_of_quotesNoSeparator {signs u v : List Char} (hu : '"' ∉ u)
    (hv : '"' ∈ v → v.head? = some ',') (h : QuotesNoSeparator signs (some '"') (u ++ v)) :
    '"' ∉ v := by
  intro hmem
  obtain ⟨rest, rfl⟩ := List.head?_eq_some_iff.1 (hv hmem)
  exact (h ',' (mem_quoteMarks_of_not_mem hu)).1 rfl

/-- A sign that opens no quotes in an argument does not occur in what follows it, if that is a
comma or has no double quote.  Read along the argument, a place is in single quotes whenever the
text is. -/
theorem not_mem_of_foldlM_step? {signs u v : List Char} {place : Place} {state : Option Char}
    (hsigns : signs ⊆ quoteSigns) (hsingle : '\'' ∈ signs)
    (hplace : place.quoted = true ↔ state = some '\'') (hstate : ∀ sign ∈ state, sign ∈ signs)
    (hargument : u.foldlM Place.step? place = some .outside)
    (hquotes : QuotesNoSeparator signs state (u ++ v)) (hv : '"' ∈ v → v.head? = some ',') :
    ∀ sign ∈ signs, (none, sign) ∈ quoteMarks signs state u → sign ∉ v := by
  have hkinds {sign : Char} (hsign : sign ∈ signs) : sign = '\'' ∨ sign = '"' := by
    simpa [quoteSigns] using hsigns hsign
  induction u generalizing place state with
  | nil => cases state <;> simp [quoteMarks]
  | cons c u ih =>
    rw [List.foldlM_cons, Option.bind_eq_bind, Option.bind_eq_some_iff] at hargument
    obtain ⟨next, hstep, hrest⟩ := hargument
    have hnext := Place.quoted_of_step? hstep
    intro sign hsign hmem
    cases state with
    | some opened =>
      -- In quotes the mark of `c` is no open sign, and a place changes at single quotes only.
      rw [quoteMarks, List.mem_cons] at hmem
      have hlater : QuotesNoSeparator signs (if c = opened then none else some opened) (u ++ v) :=
        fun d hd => hquotes d (List.mem_cons_of_mem _ hd)
      refine ih ?_ ?_ hrest hlater sign hsign (hmem.resolve_left (by simp))
      · rcases hkinds (hstate opened rfl) with rfl | rfl
        · rw [hnext, hplace.2 rfl]
          split_ifs <;> simp
        · have hc : c ≠ '\'' := (hquotes c List.mem_cons_self).2
          have hunquoted : place.quoted = false := by simpa using hplace
          rw [hnext, if_neg hc, hunquoted]
          split_ifs <;> simp
      · split_ifs
        · simp
        · exact hstate
    | none =>
      have hunquoted : place.quoted = false := by simpa using hplace
      rw [hunquoted, Bool.not_false] at hnext
      by_cases hopens : c ∈ signs ∧ c ∈ u
      · -- What opens quotes in the argument opens them in the whole text.
        have hlonger : c ∈ signs ∧ c ∈ u ++ v := ⟨hopens.1, List.mem_append_left v hopens.2⟩
        rw [quoteMarks, if_pos hopens, List.mem_cons] at hmem
        rw [QuotesNoSeparator, List.cons_append, quoteMarks, if_pos hlonger] at hquotes
        refine ih ?_ ?_ hrest (fun d hd => hquotes d (List.mem_cons_of_mem _ hd)) sign hsign
          (hmem.resolve_left (by simp))
        · simp [hnext]
        · rintro _ ⟨⟩
          exact hopens.1
      · -- A single quote is closed in the argument, so a sign that is not is a double quote.
        have hc : c ≠ '\'' := by
          rintro rfl
          exact hopens ⟨hsingle, Place.mem_of_foldlM_step? (by simpa using hnext) hrest⟩
        have hlonger : ¬ (c ∈ signs ∧ c ∈ u ++ v) := by
          rintro ⟨hcsign, hcmem⟩
          obtain rfl := (hkinds hcsign).resolve_left hc
          rw [QuotesNoSeparator, List.cons_append, quoteMarks, if_pos ⟨hcsign, hcmem⟩] at hquotes
          have hnot : '"' ∉ u := fun hu => hopens ⟨hcsign, hu⟩
          exact not_mem_of_quotesNoSeparator hnot hv
            (fun d hd => hquotes d (List.mem_cons_of_mem _ hd))
            ((List.mem_append.1 hcmem).resolve_left hnot)
        rw [quoteMarks, if_neg hopens, List.mem_cons] at hmem
        rw [QuotesNoSeparator, List.cons_append, quoteMarks, if_neg hlonger] at hquotes
        rcases hmem with heq | hmem
        · obtain rfl : sign = c := by simpa using heq
          exact fun hv => hlonger ⟨hsign, List.mem_append_right u hv⟩
        · refine ih ?_ (by simp) hrest (fun d hd => hquotes d (List.mem_cons_of_mem _ hd)) sign
            hsign hmem
          simp [hnext, hc]

/-- An argument stands apart from what follows it in the call. -/
theorem IsArgument.apart {signs u v : List Char} (h : IsArgument u) (hsigns : signs ⊆ quoteSigns)
    (hsingle : '\'' ∈ signs) (hquotes : QuotesNoSeparator signs none (u ++ v))
    (hv : '"' ∈ v → v.head? = some ',') : Apart signs u v :=
  not_mem_of_foldlM_step? hsigns hsingle (by simp [Place.outside]) (by simp) h hquotes hv

section Essence

variable {signs : List Char}

theorem QuotesNoSeparator.of_append {u v : List Char} (hapart : Apart signs u v)
    (h : QuotesNoSeparator signs none (u ++ v)) :
    QuotesNoSeparator signs none u ∧ QuotesNoSeparator signs none v := by
  rw [QuotesNoSeparator, hapart.quoteMarks_append] at h
  exact ⟨fun c hc => h c (List.mem_append_left _ hc), fun c hc => h c (List.mem_append_right _ hc)⟩

theorem QuotesNoSeparator.of_unquoted {u v : List Char} (hu : ∀ c ∈ u, c ∉ signs)
    (h : QuotesNoSeparator signs none (u ++ v)) : QuotesNoSeparator signs none v :=
  (h.of_append (apart_of_unquoted hu)).2

theorem QuotesNoSeparator.trim (hsigns : signs ⊆ quoteSigns) {s : List Char}
    (h : QuotesNoSeparator signs none s) : QuotesNoSeparator signs none (trim s) := by
  obtain ⟨before, after, heq, hbefore, hafter⟩ := exists_eq_append_trim s
  have hunquoted {u : List Char} (hu : ∀ c ∈ u, isBlank c = true) : ∀ c ∈ u, c ∉ signs :=
    fun c hc => not_mem_of_isSign hsigns (isSign_of_isBlank (hu c hc))
  rw [heq, List.append_assoc] at h
  exact ((h.of_unquoted (hunquoted hbefore)).of_append
    (apart_of_unquoted_right (hunquoted hafter))).1

/-- A comma, and the space behind it, open no quotes. -/
theorem essence_comma (hsigns : signs ⊆ quoteSigns) (s : List Char) :
    essence signs (',' :: s) = (none, ',') :: essence signs s ∧
      essence signs (',' :: ' ' :: s) = (none, ',') :: essence signs s := by
  have hcomma : ',' ∉ signs := fun hmem => absurd (hsigns hmem) (by decide)
  have hspace : ' ' ∉ signs := fun hmem => absurd (hsigns hmem) (by decide)
  rw [essence_cons_of_unquoted hcomma, essence_cons_of_unquoted hcomma,
    essence_cons_of_unquoted hspace, show essential (none, ',') = [(none, ',')] by decide,
    show essential (none, ' ') = [] by decide]
  exact ⟨rfl, rfl⟩

/-- What is written of the arguments of a call agrees with them in what matters if each of them
does. -/
theorem essence_arguments (hsigns : signs ⊆ quoteSigns) (hsingle : '\'' ∈ signs)
    {args : List (List Char)} (hargs : ∀ arg ∈ args, IsArgument arg)
    (hwritten : ∀ arg ∈ args, QuotesNoSeparator signs none arg →
      essence signs (parse arg).render = essence signs arg)
    (hquotes : QuotesNoSeparator signs none ([','].intercalate args ++ [')'])) :
    essence signs ([','].intercalate (argumentTexts (args.map parse)) ++ [')']) =
      essence signs ([','].intercalate args ++ [')']) := by
  cases args with
  | nil => rfl
  | cons arg args =>
    rw [List.map_cons, argumentTexts, intercalate_comma_cons, intercalate_comma_cons,
      List.append_assoc, List.append_assoc]
    rw [intercalate_comma_cons, List.append_assoc] at hquotes
    induction args generalizing arg with
    | nil =>
      have hclose : ∀ c ∈ [')'], c ∉ signs := by
        simpa using fun hmem => absurd (hsigns hmem) (by decide)
      have hapart {u : List Char} : Apart signs u [')'] := apart_of_unquoted_right hclose
      have harg := hwritten arg List.mem_cons_self (hquotes.of_append hapart).1
      simpa [hapart.essence_append] using harg
    | cons next args ih =>
      obtain ⟨harg, hlater⟩ := List.forall_mem_cons.1 hargs
      obtain ⟨hwrite, hwriteLater⟩ := List.forall_mem_cons.1 hwritten
      simp only [List.map_cons, List.flatMap_cons, List.cons_append, List.append_assoc]
        at hquotes ⊢
      have hapart := harg.apart hsigns hsingle hquotes fun _ => rfl
      obtain ⟨hquotesArg, hquotesLater⟩ := hquotes.of_append hapart
      have hcomma : ∀ c ∈ [','], c ∉ signs := by
        simpa using fun hmem => absurd (hsigns hmem) (by decide)
      have hrest := ih next hlater hwriteLater
        (QuotesNoSeparator.of_unquoted (u := [',']) hcomma hquotesLater)
      have hafter := (essence_comma hsigns _).2.trans
        ((congrArg _ hrest).trans (essence_comma hsigns _).1.symm)
      rw [hapart.essence_append, (hapart.congr hsigns (hwrite hquotesArg) hafter).essence_append,
        hwrite hquotesArg, hafter]

/-- What stands before the arguments of a call opens no quotes, and of it the name matters and the
opening parenthesis. -/
theorem essence_opening (hsigns : signs ⊆ quoteSigns) {function gap inner : List Char}
    (hfunction : ∀ c ∈ function, isPlain c = true) (hgap : ∀ c ∈ gap, isBlank c = true)
    (hinner : ∀ c ∈ inner, isBlank c = true) (s : List Char) :
    (QuotesNoSeparator signs none (function ++ (gap ++ '(' :: (inner ++ s))) →
        QuotesNoSeparator signs none s) ∧
      essence signs (function ++ (gap ++ '(' :: (inner ++ s))) =
        essence signs function ++ (essential (none, '(') ++ essence signs s) := by
  have hname : ∀ c ∈ function, c ∉ signs := fun c hc =>
    not_mem_of_isSign hsigns (isPlain_iff.1 (hfunction c hc)).2
  have hblank {u : List Char} (hu : ∀ c ∈ u, isBlank c = true) : ∀ c ∈ u, c ∉ signs :=
    fun c hc => not_mem_of_isSign hsigns (isSign_of_isBlank (hu c hc))
  have hopen : '(' ∉ signs := fun hmem => absurd (hsigns hmem) (by decide)
  constructor
  · intro h
    rw [← List.singleton_append] at h
    exact (((h.of_unquoted hname).of_unquoted (hblank hgap)).of_unquoted
      (by simpa using hopen)).of_unquoted (hblank hinner)
  · rw [(apart_of_unquoted hname).essence_append, (apart_of_unquoted (hblank hgap)).essence_append,
      essence_of_isBlank hsigns hgap, List.nil_append, essence_cons_of_unquoted hopen,
      (apart_of_unquoted (hblank hinner)).essence_append, essence_of_isBlank hsigns hinner,
      List.nil_append]

/-- What an expression is written as agrees with the text it was read from in what matters. -/
theorem essence_render_parse (hsigns : signs ⊆ quoteSigns) (hsingle : '\'' ∈ signs)
    (s : List Char) (hquotes : QuotesNoSeparator signs none s) :
    essence signs (parse s).render = essence signs s := by
  refine parse_induction (motive := fun s e => QuotesNoSeparator signs none s →
    essence signs e.render = essence signs s) ?_ ?_ s hquotes
  · intro s _ _
    rw [render_ofAtom, essence_trim hsigns]
  · intro s function args hcall ih hquotes
    obtain ⟨gap, inner, hgap, hinner, htext⟩ := hcall.exists_text
    have hname := isPlain_of_isIdentifier hcall.isIdentifier
    obtain ⟨hinside, hread⟩ := essence_opening hsigns hname
      (fun c hc => isBlank_of_isSpace (hgap c hc)) (fun c hc => isBlank_of_isSpace (hinner c hc))
      ([','].intercalate args ++ [')'])
    have hwritten := (@essence_opening signs hsigns (lower function) [] []
      (fun c => isPlain_of_mem_lower hname) (by simp) (by simp)
      ([','].intercalate (argumentTexts (args.map parse)) ++ [')'])).2
    have hargs := essence_arguments hsigns hsingle (fun arg harg => (hcall.isProper arg harg).1) ih
      (hinside (htext ▸ hquotes.trim hsigns))
    rw [essence_lower hsigns hname, hargs, ← hread, ← htext, essence_trim hsigns] at hwritten
    rw [render_call]
    exact hwritten

/-- What is no blank character and has no case is written wherever it was read. -/
theorem mem_render_parse_iff {c : Char} (hblank : isBlank c = false)
    (hcase : ∀ d, c ∈ caseless d ↔ d = c) (s : List Char) : c ∈ (parse s).render ↔ c ∈ s := by
  have hquotes : QuotesNoSeparator ['\''] none s := by
    intro d hd
    exact absurd (mem_signs_of_mem_quoteMarks (by simp) hd) (by decide)
  have hessence := essence_render_parse (by simp [quoteSigns]) (by simp) s hquotes
  rw [← @exists_mem_essence_iff ['\''] _ _ hblank hcase, hessence,
    exists_mem_essence_iff hblank hcase]

end Essence

/-- Written again, a text is the same but for blank characters and case outside of quotes if quotes
are single quotes, so whatever stands in single quotes is kept character for character.  With
double quotes as well it is the same if no comma and no single quote stands in double quotes. -/
theorem essence_text_ofText (s : String) :
    essence ['\''] (ofText s).text.toList = essence ['\''] s.toList ∧
      (QuotesNoSeparator quoteSigns none s.toList →
        essence quoteSigns (ofText s).text.toList = essence quoteSigns s.toList) := by
  rw [toList_text, ofText]
  refine ⟨essence_render_parse (by simp [quoteSigns]) (by simp) s.toList ?_,
    essence_render_parse (List.Subset.refl _) (by simp [quoteSigns]) s.toList⟩
  intro c hc
  exact absurd (mem_signs_of_mem_quoteMarks (by simp) hc) (by decide)

theorem essence_text_ofText_quoted :
    (ofText "SUM( \"Open Price\" , COALESCE(note ,'A,  B') )").text =
        "sum(\"Open Price\", coalesce(note, 'A,  B'))" ∧
      essence ['\''] (ofText "SUM( \"Open Price\" , COALESCE(note ,'A,  B') )").text.toList =
        essence ['\''] "SUM( \"Open Price\" , COALESCE(note ,'A,  B') )".toList ∧
      essence quoteSigns (ofText "SUM( \"Open Price\" , COALESCE(note ,'A,  B') )").text.toList =
        essence quoteSigns "SUM( \"Open Price\" , COALESCE(note ,'A,  B') )".toList := by
  obtain ⟨hsingle, hboth⟩ :=
    essence_text_ofText "SUM( \"Open Price\" , COALESCE(note ,'A,  B') )"
  refine ⟨by decide +kernel, hsingle, hboth ?_⟩
  have hmarks : (quoteMarks quoteSigns none
      "SUM( \"Open Price\" , COALESCE(note ,'A,  B') )".toList).all (fun marked =>
        marked.1 != some '"' || (marked.2 != ',' && marked.2 != '\'')) = true := by
    decide +kernel
  intro c hc
  simpa using List.all_eq_true.1 hmarks _ hc

/-- A comma in double quotes separates arguments, and the space that is written behind it changes
the quoted name. -/
theorem essence_text_ofText_comma :
    (ofText "sum(\"a,b\")").text = "sum(\"a, b\")" ∧
      essence quoteSigns (ofText "sum(\"a,b\")").text.toList ≠
        essence quoteSigns "sum(\"a,b\")".toList :=
  ⟨by decide +kernel, by decide +kernel⟩

end TimeRollup.Expr
