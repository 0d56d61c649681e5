import TimeRollup.Proofs.Expr.Calls
import TimeRollup.Text.Substring

/-!
# Reading back what is written

An expression that was read from a text is written with its function names in lower case and one
space behind each comma.  The arguments of a call are cut at the same commas when that text is read
again, so the same expression comes back, unless lower-casing makes a function name one that is no
name any more.
-/

namespace TimeRollup.Expr

open TimeRollup.Text TimeRollup.Sql

mutual

/-- The functions that an expression calls, at any depth. -/
def functionNames : Expr → List String
  | .call function args => function :: argumentFunctionNames args
  | .star | .column _ | .literal _ | .raw _ => []

def argumentFunctionNames : List Expr → List String
  | [] => []
  | arg :: args => arg.functionNames ++ argumentFunctionNames args

end

theorem mem_argumentFunctionNames {args : List Expr} {function : String} :
    function ∈ argumentFunctionNames args ↔ ∃ arg ∈ args, function ∈ arg.functionNames := by
  induction args with
  | nil => simp [argumentFunctionNames]
  | cons arg args ih => simp [argumentFunctionNames, ih]

@[simp]
theorem render_ofAtom (s : List Char) : (ofAtom s).render = s := by
  unfold ofAtom
  split_ifs with hstar
  · rw [hstar, render]
  all_goals simp [render]

/-- The texts between the commas of a call, each but the first with a space in front. -/
def argumentTexts : List Expr → List (List Char)
  | [] => []
  | arg :: args => arg.render :: args.map fun arg => ' ' :: arg.render

theorem renderArgs_eq_argumentTexts (args : List Expr) :
    renderArgs args = [','].intercalate (argumentTexts args) := by
  cases args with
  | nil => rfl
  | cons arg args =>
    rw [argumentTexts, intercalate_comma_cons, renderArgs, renderMoreArgs_eq_flatMap,
      List.flatMap_map]

theorem exists_of_mem_argumentTexts {args : List Expr} {text : List Char}
    (h : text ∈ argumentTexts args) :
    ∃ arg ∈ args, text = arg.render ∨ text = ' ' :: arg.render := by
  cases args with
  | nil => simp [argumentTexts] at h
  | cons arg args =>
    rcases List.mem_cons.1 h with rfl | h
    · exact ⟨arg, List.mem_cons_self, .inl rfl⟩
    · obtain ⟨other, hother, rfl⟩ := List.mem_map.1 h
      exact ⟨other, List.mem_cons_of_mem arg hother, .inr rfl⟩

section Arguments

theorem isArgument_cons_of_isBlank {c : Char} (h : isBlank c = true) {s : List Char} :
    IsArgument (c :: s) ↔ IsArgument s := by
  rw [IsArgument, List.foldlM_cons, Place.step?_of_isSign (isSign_of_isBlank h)]
  rfl

theorem IsArgument.trim {s : List Char} (h : IsArgument s) : IsArgument (trim s) := by
  obtain ⟨before, after, heq, hbefore, hafter⟩ := exists_eq_append_trim s
  rw [IsArgument, heq, List.foldlM_append, List.foldlM_append,
    Place.foldlM_step?_of_isSign fun c hc => isSign_of_isBlank (hbefore c hc)] at h
  cases hinner : (Text.trim s).foldlM Place.step? .outside with
  | none => simp [hinner] at h
  | some place =>
    simp only [Option.bind_eq_bind, Option.bind_some, hinner] at h
    rw [Place.foldlM_step?_of_isSign fun c hc => isSign_of_isBlank (hafter c hc)] at h
    exact hinner.trans h

/-- Between the parentheses of a call nothing leads further out or in. -/
theorem foldlM_step?_intercalate {args : List (List Char)}
    (hargs : ∀ arg ∈ args, IsArgument arg) :
    ([','].intercalate args).foldlM Place.step? (Place.outside.within 1) =
      some (Place.outside.within 1) := by
  have hinside {arg : List Char} (harg : IsArgument arg) :
      arg.foldlM Place.step? (Place.outside.within 1) = some (Place.outside.within 1) :=
    Place.foldlM_step?_within harg 1
  cases args with
  | nil => rfl
  | cons arg args =>
    obtain ⟨harg, hlater⟩ := List.forall_mem_cons.1 hargs
    rw [intercalate_comma_cons, List.foldlM_append, hinside harg]
    clear harg hargs
    induction args with
    | nil => rfl
    | cons next args ih =>
      obtain ⟨hnext, hlater⟩ := List.forall_mem_cons.1 hlater
      rw [List.flatMap_cons, Option.bind_eq_bind, Option.bind_some, List.cons_append,
        List.foldlM_cons, Option.bind_eq_bind,
        show (Place.outside.within 1).step? ',' = some (Place.outside.within 1) from rfl,
        Option.bind_some, List.foldlM_append, hinside hnext]
      exact ih hlater

theorem isArgument_call {function : List Char} {args : List (List Char)}
    (hfunction : ∀ c ∈ function, isPlain c = true) (hargs : ∀ arg ∈ args, IsArgument arg) :
    IsArgument (function ++ '(' :: ([','].intercalate args ++ [')'])) := by
  rw [IsArgument, List.foldlM_append,
    Place.foldlM_step?_of_isSign fun c hc => (isPlain_iff.1 (hfunction c hc)).2,
    Option.bind_eq_bind, Option.bind_some, List.foldlM_cons,
    show Place.outside.step? '(' = some (Place.outside.within 1) from rfl,
    Option.bind_eq_bind, Option.bind_some, List.foldlM_append, foldlM_step?_intercalate hargs]
  rfl

end Arguments

/-- A call is written with its name, and its arguments between commas. -/
theorem render_call (function : List Char) (args : List Expr) :
    (Expr.call (String.ofList function) args).render =
      function ++ '(' :: ([','].intercalate (argumentTexts args) ++ [')']) := by
  rw [render, String.toList_ofList, renderArgs_eq_argumentTexts]
  simp

theorem isArgument_render_call {function s : List Char} {args : List (List Char)}
    (hcall : IsCall function args s) (hargs : ∀ arg ∈ args, IsArgument (parse arg).render) :
    IsArgument (Expr.call (String.ofList (lower function)) (args.map parse)).render := by
  rw [render_call]
  refine isArgument_call ?_ ?_
  · exact fun c hc => isPlain_of_mem_lower (isPlain_of_isIdentifier hcall.isIdentifier) hc
  · intro text htext
    obtain ⟨e, he, htext⟩ := exists_of_mem_argumentTexts htext
    obtain ⟨arg, harg, rfl⟩ := List.mem_map.1 he
    rcases htext with rfl | rfl
    · exact hargs arg harg
    · exact (isArgument_cons_of_isBlank (by decide)).2 (hargs arg harg)

/-- What is written of an argument is an argument again. -/
theorem isArgument_render_parse {s : List Char} (h : IsArgument s) :
    IsArgument (parse s).render := by
  refine parse_induction (motive := fun s e => IsArgument s → IsArgument e.render) ?_ ?_ s h
  · intro s _ hs
    rw [render_ofAtom]
    exact hs.trim
  · intro s function args hcall ih _
    exact isArgument_render_call hcall fun arg harg => ih arg harg (hcall.isProper arg harg).1

theorem trim_call {function body : List Char} (hfunction : ∀ c ∈ function, isPlain c = true) :
    trim (function ++ '(' :: (body ++ [')'])) = function ++ '(' :: (body ++ [')']) := by
  cases function with
  | nil => exact trim_eq_self (by decide) (by decide)
  | cons c function =>
    have htext := @trim_eq_self c ')' (function ++ '(' :: body)
      (isPlain_iff.1 (hfunction c List.mem_cons_self)).1 (by decide)
    simpa using htext

/-- Nothing blank is written around an expression that was read. -/
theorem trim_render_parse (s : List Char) : trim (parse s).render = (parse s).render := by
  refine parse_induction (motive := fun _ e => trim e.render = e.render) ?_ ?_ s
  · intro s _
    rw [render_ofAtom, trim_trim]
  · intro s function args hcall _
    rw [render_call]
    exact trim_call fun c hc =>
      isPlain_of_mem_lower (isPlain_of_isIdentifier hcall.isIdentifier) hc

theorem IsProperArgument.render_parse {s : List Char} (h : IsProperArgument s) :
    IsProperArgument (parse s).render := by
  obtain ⟨hargument, c, hc, hblank⟩ := h
  refine ⟨isArgument_render_parse hargument, ?_⟩
  by_contra hall
  simp only [not_exists, not_and, Bool.not_eq_false] at hall
  have hempty : (parse s).render = [] := by
    rw [← trim_render_parse, trim_eq_nil_iff.2 hall]
  cases hcall : call? (trim s) with
  | none =>
    rw [parse_eq_atom hcall, render_ofAtom, trim_eq_nil_iff] at hempty
    simp [hempty c hc] at hblank
  | some parts => simp [parse_eq_call hcall, render] at hempty

/-- Only what is left without blank characters around it is read. -/
theorem parse_congr {s t : List Char} (h : trim s = trim t) : parse s = parse t := by
  cases hcall : call? (trim s) with
  | none => rw [parse_eq_atom hcall, parse_eq_atom (h ▸ hcall), h]
  | some parts => rw [parse_eq_call hcall, parse_eq_call (h ▸ hcall)]

/-- The text of a call is cut at the commas between the arguments again. -/
theorem isCall_render {function : List Char} {args : List (List Char)}
    (hfunction : isIdentifier function = true) (hargs : ∀ arg ∈ args, IsProperArgument arg) :
    IsCall function (argumentTexts (args.map parse))
      (trim (Expr.call (String.ofList function) (args.map parse)).render) := by
  rw [render_call, trim_call (isPlain_of_isIdentifier hfunction)]
  refine ⟨hfunction, ?_, ?_, [], [], by simp, by simp, rfl⟩
  · intro text htext
    obtain ⟨e, he, htext⟩ := exists_of_mem_argumentTexts htext
    obtain ⟨arg, harg, rfl⟩ := List.mem_map.1 he
    obtain ⟨hargument, c, hc, hblank⟩ := (hargs arg harg).render_parse
    rcases htext with rfl | rfl
    · exact ⟨hargument, c, hc, hblank⟩
    · exact ⟨(isArgument_cons_of_isBlank (by decide)).2 hargument, c, List.mem_cons_of_mem _ hc,
        hblank⟩
  · intro text htext c hc
    cases args with
    | nil => simp [argumentTexts] at htext
    | cons arg args =>
      obtain rfl : (parse arg).render = text := by simpa [argumentTexts] using htext
      obtain ⟨rest, hrest⟩ := List.head?_eq_some_iff.1 hc
      have hblank := isBlank_of_trim_eq_cons ((trim_render_parse arg).trans hrest)
      rw [Bool.eq_false_iff]
      intro hspace
      simp [isBlank_of_isSpace hspace] at hblank

theorem map_parse_argumentTexts {args : List Expr} (h : ∀ arg ∈ args, parse arg.render = arg) :
    (argumentTexts args).map parse = args := by
  cases args with
  | nil => rfl
  | cons arg args =>
    obtain ⟨harg, hlater⟩ := List.forall_mem_cons.1 h
    have hspaced : args.map (fun arg => parse (' ' :: arg.render)) = args.map id :=
      List.map_congr_left fun other hother =>
        (parse_congr (trim_cons_of_blank (by decide) other.render)).trans (hlater other hother)
    simp only [argumentTexts, List.map_cons, List.map_map, Function.comp_def, harg, hspaced,
      List.map_id]

/-- An expression that was read from a text is read again from what is written of it, if
lower-casing left every function name in it a name. -/
theorem parse_render_parse (s : List Char)
    (hnames : ∀ function ∈ (parse s).functionNames, isIdentifier function.toList = true) :
    parse (parse s).render = parse s := by
  refine parse_induction (motive := fun _ e =>
    (∀ function ∈ e.functionNames, isIdentifier function.toList = true) →
      parse e.render = e) ?_ ?_ s hnames
  · intro s hcall _
    rw [render_ofAtom, parse_congr (trim_trim s), parse_eq_atom hcall]
  · intro s function args hcall ih hnames
    obtain ⟨hfunction, hnested⟩ := List.forall_mem_cons.1 hnames
    rw [String.toList_ofList] at hfunction
    have hreread : ∀ e ∈ args.map parse, parse e.render = e := by
      intro e he
      obtain ⟨arg, harg, rfl⟩ := List.mem_map.1 he
      exact ih arg harg fun name hname =>
        hnested name (mem_argumentFunctionNames.2 ⟨_, he, hname⟩)
    rw [parse_eq_call (isCall_render hfunction hcall.isProper).call?_eq, lower_lower,
      map_parse_argumentTexts hreread]

theorem functionNames_ofAtom (s : List Char) : (ofAtom s).functionNames = [] := by
  unfold ofAtom
  split_ifs <;> rfl

/-- The name of a call that is written out is read where it stands, if at all. -/
theorem eq_of_isCall_render {function name : List Char} {args : List Expr}
    {texts : List (List Char)} (hfunction : ∀ c ∈ function, isPlain c = true)
    (h : IsCall name texts (Expr.call (String.ofList function) args).render) : name = function := by
  obtain ⟨gap, inner, hgap, -, htext⟩ := h.exists_text
  have hblank {c : Char} (hc : c ∈ gap) : isBlank c = true := isBlank_of_isSpace (hgap c hc)
  have hfront : '(' ∉ function := fun hc =>
    absurd (isPlain_iff.1 (hfunction _ hc)).2 (by decide)
  have hname : '(' ∉ name ++ gap := by
    intro hc
    rcases List.mem_append.1 hc with hc | hc
    · exact absurd (isPlain_iff.1 (isPlain_of_isIdentifier h.isIdentifier _ hc)).2 (by decide)
    · exact absurd (hblank hc) (by decide)
  rw [render_call, ← List.append_assoc name] at htext
  obtain ⟨rfl, -⟩ := eq_of_append_cons_eq_of_before hfront hname htext
  have hnone : gap = [] := by
    rw [List.eq_nil_iff_forall_not_mem]
    intro c hc
    have hplain := (isPlain_iff.1 (hfunction c (List.mem_append_right name hc))).1
    simp [hblank hc] at hplain
  rw [hnone, List.append_nil]

theorem parse_render_of_map_parse_argumentTexts {args : List Expr}
    (h : (argumentTexts args).map parse = args) :
    ∀ arg ∈ args, parse arg.render = arg := by
  cases args with
  | nil => simp
  | cons arg args =>
    simp only [argumentTexts, List.map_cons, List.map_map, List.cons.injEq] at h
    refine List.forall_mem_cons.2 ⟨h.1, fun other hother => ?_⟩
    have hspaced := List.map_eq_map_iff.1 (h.2.trans (List.map_id args).symm) other hother
    exact (parse_congr (trim_cons_of_blank (by decide) other.render)).symm.trans hspaced

/-- An expression comes back only if lower-casing left every function name in it a name. -/
theorem parse_render_parse_iff (s : List Char) :
    parse (parse s).render = parse s ↔
      ∀ function ∈ (parse s).functionNames, isIdentifier function.toList = true := by
  refine ⟨?_, parse_render_parse s⟩
  refine parse_induction (motive := fun _ e => parse e.render = e →
    ∀ function ∈ e.functionNames, isIdentifier function.toList = true) ?_ ?_ s
  · intro s _ _
    simp [functionNames_ofAtom]
  · intro s function args hcall ih hreread
    have hplain : ∀ c ∈ lower function, isPlain c = true := fun c =>
      isPlain_of_mem_lower (isPlain_of_isIdentifier hcall.isIdentifier)
    have hfunction : isIdentifier (lower function) = true := by
      cases hread : call? (trim (Expr.call (String.ofList (lower function))
          (args.map parse)).render) with
      | none =>
        rw [parse_eq_atom hread] at hreread
        have hnames := congrArg functionNames hreread
        simp [functionNames_ofAtom, functionNames] at hnames
      | some parts =>
        have hparts := isCall_of_call? hread
        rw [render_call, trim_call hplain, ← render_call] at hparts
        exact eq_of_isCall_render hplain hparts ▸ hparts.isIdentifier
    rw [parse_eq_call (isCall_render hfunction hcall.isProper).call?_eq, Expr.call.injEq] at hreread
    have hargs := parse_render_of_map_parse_argumentTexts hreread.2
    refine List.forall_mem_cons.2 ⟨by rwa [String.toList_ofList], fun name hname => ?_⟩
    obtain ⟨e, he, hname⟩ := mem_argumentFunctionNames.1 hname
    obtain ⟨arg, harg, rfl⟩ := List.mem_map.1 he
    exact ih arg harg (hargs _ he) name hname

theorem eq_trim_of_parse_eq_column {s : List Char} {name : String}
    (h : parse s = .column name) : name.toList = trim s := by
  cases hcall : call? (trim s) with
  | none =>
    rw [parse_eq_atom hcall] at h
    have hrender := congrArg render h
    rw [render_ofAtom, render] at hrender
    exact hrender.symm
  | some parts => simp [parse_eq_call hcall] at h

theorem render_parse_ne_nil {s : List Char} (h : trim s ≠ []) : (parse s).render ≠ [] := by
  cases hcall : call? (trim s) with
  | none =>
    rw [parse_eq_atom hcall, render_ofAtom]
    exact h
  | some parts => simp [parse_eq_call hcall, render]

/-- Writing an expression and reading it again gives the expression back, however it was written
first, as long as its function names are names in lower case too. -/
theorem ofText_text_ofText (s : String)
    (hnames : ∀ function ∈ (ofText s).functionNames, isIdentifier function.toList = true) :
    ofText (ofText s).text = ofText s := by
  rw [ofText, toList_text]
  exact parse_render_parse s.toList hnames

theorem ofText_text_ofText_nested :
    (ofText "Coalesce( SUM(DISTINCT price) ,t.\"low\",'n, a')").text =
        "coalesce(sum(DISTINCT price), t.\"low\", 'n, a')" ∧
      ofText (ofText "Coalesce( SUM(DISTINCT price) ,t.\"low\",'n, a')").text =
        ofText "Coalesce( SUM(DISTINCT price) ,t.\"low\",'n, a')" :=
  ⟨by decide +kernel, ofText_text_ofText _ (by decide +kernel)⟩

end TimeRollup.Expr
