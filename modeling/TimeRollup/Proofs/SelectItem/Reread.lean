import TimeRollup.Proofs.Rule.Distinct
import TimeRollup.Proofs.SelectItem.DefaultAlias

/-!
# Entries read back

An entry that is written out and read again is the same entry, with three exceptions.  A function name may
be no name any more once it is in lower case.  A column that goes by its own quoted name is written
without an alias and gets one without quotes.  And a column whose name has a parenthesis or a single quote
in double quotes hides the alias behind it, since only single quotes and parentheses are looked at.
-/

namespace TimeRollup

open TimeRollup.Text TimeRollup.Sql TimeRollup.Expr

/-! ## Nesting -/

namespace Nesting

theorem step_of_isSign {c : Char} (hc : isSign c = false) (nesting : Nesting) :
    nesting.step c = nesting := by
  obtain ⟨hquote, -, hopen, hclose, -⟩ :
      c ≠ '\'' ∧ c ≠ '"' ∧ c ≠ '(' ∧ c ≠ ')' ∧ c ≠ ',' := by
    simpa [isSign, allSigns] using hc
  simp [step, hquote, hopen, hclose]

theorem foldl_step_of_isSign {s : List Char} (hs : ∀ c ∈ s, isSign c = false)
    (nesting : Nesting) : s.foldl step nesting = nesting := by
  induction s with
  | nil => rfl
  | cons c rest ih =>
    obtain ⟨hc, hrest⟩ := List.forall_mem_cons.1 hs
    rw [List.foldl_cons, step_of_isSign hc, ih hrest]

def ofPlace (place : Place) : Nesting :=
  ⟨place.depth, place.quoted⟩

/-- Inside an argument of a call the nesting is the place in the argument. -/
theorem step_ofPlace {place next : Place} {c : Char} (h : place.step? c = some next) :
    (ofPlace place).step c = ofPlace next := by
  obtain ⟨depth, quoted⟩ := place
  obtain ⟨nextDepth, nextQuoted⟩ := next
  simp only [Place.step?, step, ofPlace] at h ⊢
  grind

theorem foldl_step_ofPlace {s : List Char} {place next : Place}
    (h : s.foldlM Place.step? place = some next) :
    s.foldl step (ofPlace place) = ofPlace next := by
  induction s generalizing place with
  | nil =>
    rw [List.foldlM_nil] at h
    rw [Option.some.inj h]
    rfl
  | cons c rest ih =>
    rw [List.foldlM_cons, Option.bind_eq_bind, Option.bind_eq_some_iff] at h
    obtain ⟨between, hstep, hrest⟩ := h
    rw [List.foldl_cons, step_ofPlace hstep, ih hrest]

end Nesting

namespace SelectItem

theorem isTopLevel_of_isArgument {s : List Char} (h : IsArgument s) : isTopLevel s = true := by
  have hfold : s.foldl Nesting.step .outermost = .outermost := Nesting.foldl_step_ofPlace h
  rw [isTopLevel, hfold]
  rfl

theorem isTopLevel_of_isPlain {s : List Char} (h : ∀ c ∈ s, isPlain c = true) :
    isTopLevel s = true := by
  rw [isTopLevel, Nesting.foldl_step_of_isSign fun c hc => (isPlain_iff.1 (h c hc)).2]
  rfl

theorem isTopLevel_append_of_isBlank {gap : List Char} (h : ∀ c ∈ gap, isBlank c = true)
    (s : List Char) : isTopLevel (s ++ gap) = isTopLevel s := by
  rw [isTopLevel, isTopLevel, List.foldl_append,
    Nesting.foldl_step_of_isSign fun c hc => isSign_of_isBlank (h c hc)]

theorem isTopLevel_trimEnd (s : List Char) : isTopLevel (trimEnd s) = isTopLevel s := by
  have hgap : ∀ c ∈ s.rtakeWhile isBlank, isBlank c = true := fun c => List.mem_rtakeWhile_imp
  rw [← isTopLevel_append_of_isBlank hgap, trimEnd_eq_rdropWhile, List.rdropWhile_append_rtakeWhile]

theorem isTopLevel_trim (s : List Char) : isTopLevel (trim s) = isTopLevel s := by
  obtain ⟨before, after, heq, hbefore, hafter⟩ := exists_eq_append_trim s
  calc isTopLevel (trim s) = isTopLevel (before ++ trim s ++ after) := by
        rw [isTopLevel_append_of_isBlank hafter, isTopLevel, isTopLevel, List.foldl_append,
          Nesting.foldl_step_of_isSign fun c hc => isSign_of_isBlank (hbefore c hc)]
    _ = isTopLevel s := by rw [← heq]

/-- What is written of an expression is outside of parentheses and quotes if its text was. -/
theorem isTopLevel_render_parse {s : List Char} (h : isTopLevel s = true) :
    isTopLevel (Expr.parse s).render = true := by
  cases hcall : call? (trim s) with
  | none => rw [parse_eq_atom hcall, render_ofAtom, isTopLevel_trim, h]
  | some parts =>
    have hparts := isCall_of_call? hcall
    rw [parse_eq_call hcall]
    exact isTopLevel_of_isArgument (isArgument_render_call hparts fun arg harg =>
      isArgument_render_parse (hparts.isProper arg harg).1)

/-! ## Entries -/

/-- An entry that was read holds an expression that was read, of a text that is not blank.  That text is
outside of parentheses and quotes if the entry named its alias. -/
theorem exists_of_parse_eq_ok {text : List Char} {item : SelectItem} (h : parse text = .ok item) :
    ∃ s, trim s ≠ [] ∧ item.expr = Expr.parse s ∧
      ((splitAlias? (trim text)).isSome = true → isTopLevel s = true) := by
  obtain ⟨hne, ⟨e, name, hsplit, rfl⟩ | ⟨hsplit, name, hcolumn, rfl⟩⟩ := parse_eq_ok_iff.1 h
  · obtain ⟨left, suffix, htext, hclosed, hsuffix, rfl⟩ := splitAlias?_eq_some_iff.1 hsplit
    refine ⟨trimEnd left, ?_, rfl, fun _ => by rw [isTopLevel_trimEnd, hclosed]⟩
    obtain ⟨c, rest, rfl, hc⟩ := hsuffix.exists_cons_of_trim htext
    have hleft : trim (c :: rest) = trimEnd (c :: rest) := by
      rw [trim, trimStart_eq_of_head hc]
    rw [← hleft, trim_trim, Ne, trim_eq_nil_iff]
    intro hblank
    simp [hblank c List.mem_cons_self] at hc
  · exact ⟨trim text, by rwa [trim_trim], hcolumn.symm, fun hsome => by simp [hsplit] at hsome⟩

variable {item : SelectItem}

/-- A column under its own name reads back as that column, under the name without quotes. -/
theorem parse_sql_of_text_eq (htext : item.expr.text = item.aliasName)
    (halias : isAlias item.aliasName.toList = true) :
    parse item.sql.toList =
      .ok ⟨.column item.aliasName, String.ofList (unqualified item.aliasName.toList)⟩ := by
  have hcolumn := isColumn_of_isAlias halias
  rw [sql_of_text_eq htext, parse_of_isColumn (by rwa [trim_of_isColumn hcolumn]),
    trim_of_isColumn hcolumn, String.ofList_toList]

theorem toList_sql_of_text_ne (htext : item.expr.text ≠ item.aliasName) :
    item.sql.toList = item.expr.render ++ (' ' :: 'a' :: 's' :: ([' '] ++ item.aliasName.toList)) := by
  rw [sql_of_text_ne htext, String.toList_append, String.toList_append, toList_text]
  simp

theorem isAliasSuffix_as {name : List Char} (h : isAlias name = true) :
    IsAliasSuffix name (' ' :: 'a' :: 's' :: ([' '] ++ name)) := by
  have hspace : ∀ c ∈ [' '], isSpace c = true := List.all_iff_forall_prop.1 (by decide)
  simpa using @IsAliasSuffix.intro name [' '] [' '] [] 'a' 's' (by simp) hspace (by decide) (by simp)
    hspace h (by simp)

/-- The alias is found behind the expression, or nowhere. -/
theorem splitAlias?_append_as {written name : List Char} (htrim : trimEnd written = written)
    (hname : isAlias name = true) :
    splitAlias? (written ++ (' ' :: 'a' :: 's' :: ([' '] ++ name))) =
      if isTopLevel written then some (written, name) else none := by
  split
  · rename_i hclosed
    exact splitAlias?_eq_some_iff.2 ⟨written, _, rfl, hclosed, isAliasSuffix_as hname, htrim.symm⟩
  · rename_i hopen
    rw [Option.eq_none_iff_forall_ne_some]
    rintro ⟨e, found⟩ hsplit
    obtain ⟨left, suffix, htext, hclosed, hsuffix, -⟩ := splitAlias?_eq_some_iff.1 hsplit
    have hleft := ((isAliasSuffix_as hname).unique hsuffix htext).2
    rw [← isTopLevel_trimEnd, ← hleft, htrim] at hclosed
    exact hopen hclosed

section Named

variable (htext : item.expr.text ≠ item.aliasName) (htrim : trim item.expr.render = item.expr.render)
  (hne : item.expr.render ≠ []) (halias : isAlias item.aliasName.toList = true)

include htext htrim hne halias

theorem trim_sql : trim item.sql.toList = item.sql.toList := by
  obtain ⟨c, rest, hrender⟩ := List.exists_cons_of_ne_nil hne
  obtain ⟨front, d, hname, hd⟩ := getLast?_of_isAlias halias
  have hc : isBlank c = false := isBlank_of_trim_eq_cons (htrim.trans hrender)
  have hlast : c :: (rest ++ (' ' :: 'a' :: 's' :: ([' '] ++ (front ++ [d])))) =
      c :: rest ++ (' ' :: 'a' :: 's' :: ([' '] ++ front)) ++ [d] := by simp
  rw [toList_sql_of_text_ne htext, hrender, hname]
  exact trim_of_ends hc hd hlast

theorem splitAlias?_sql :
    splitAlias? item.sql.toList =
      if isTopLevel item.expr.render then some (item.expr.render, item.aliasName.toList)
      else none := by
  obtain ⟨c, rest, hrender⟩ := List.exists_cons_of_ne_nil hne
  have hc : isBlank c = false := isBlank_of_trim_eq_cons (htrim.trans hrender)
  have hend : trimEnd item.expr.render = item.expr.render := by
    calc trimEnd item.expr.render = trim item.expr.render := by
          rw [trim, hrender, trimStart_eq_of_head hc]
      _ = item.expr.render := htrim
  rw [toList_sql_of_text_ne htext, splitAlias?_append_as hend halias]

theorem sql_ne_nil : trim item.sql.toList ≠ [] := by
  rw [trim_sql htext htrim hne halias, toList_sql_of_text_ne htext]
  simp

theorem parse_sql_of_isTopLevel (h : isTopLevel item.expr.render = true) :
    parse item.sql.toList = .ok ⟨Expr.parse item.expr.render, item.aliasName⟩ := by
  refine parse_eq_ok_iff.2 ⟨sql_ne_nil htext htrim hne halias,
    .inl ⟨item.expr.render, item.aliasName.toList, ?_, by rw [String.ofList_toList]⟩⟩
  rw [trim_sql htext htrim hne halias, splitAlias?_sql htext htrim hne halias, if_pos h]

/-- An entry whose alias is not found is read as something longer, if at all. -/
theorem parse_sql_ne_of_not_isTopLevel (h : isTopLevel item.expr.render = false) :
    parse item.sql.toList ≠ .ok item := by
  intro hparse
  have htrimSql := trim_sql htext htrim hne halias
  have hsplit : splitAlias? (trim item.sql.toList) = none := by
    rw [htrimSql, splitAlias?_sql htext htrim hne halias, if_neg (by simp [h])]
  obtain ⟨-, ⟨e, name, hsome, -⟩ | ⟨-, name, hcolumn, hitem⟩⟩ := parse_eq_ok_iff.1 hparse
  · simp [hsplit] at hsome
  · have hlonger : item.expr.render = item.sql.toList := by
      calc item.expr.render = name.toList := by rw [hitem, render]
        _ = item.sql.toList := by rw [eq_trim_of_parse_eq_column hcolumn, trim_trim, htrimSql]
    rw [toList_sql_of_text_ne htext] at hlonger
    simp at hlonger

end Named

/-- Only a column can go by the whole of its own text. -/
theorem expr_eq_column_of_text_eq {s : List Char} (hexpr : item.expr = Expr.parse s)
    (htext : item.expr.text = item.aliasName) (halias : isAlias item.aliasName.toList = true) :
    item.expr = .column item.aliasName := by
  have hrender : (Expr.parse s).render = item.aliasName.toList := by
    rw [← hexpr, ← toList_text, htext]
  have hnone : call? (trim s) = none := by
    rw [Option.eq_none_iff_forall_ne_some]
    intro parts hcall
    rw [parse_eq_call hcall, render_call] at hrender
    obtain ⟨front, c, hname, hc⟩ := exists_eq_concat_of_isAlias halias
    have hlast : c = ')' := by
      have hgetLast := congrArg List.getLast? (hrender.trans hname)
      simpa [List.getLast?_append, List.getLast?_cons, eq_comm] using hgetLast
    subst hlast
    revert hc
    decide
  rw [parse_eq_atom hnone, render_ofAtom] at hrender
  rw [hexpr, parse_eq_atom hnone, hrender, ofAtom_of_isColumn (isColumn_of_isAlias halias), String.ofList_toList]

/-- An entry that can stand in a definition is the same entry when it is read again exactly if its
function names are names in lower case too, it is no quoted column under its own quoted name, and its
expression is outside of parentheses and single quotes.  The last is so if it named its alias. -/
theorem ofText_sql_eq_iff {x : String} (h : ofText x = .ok item)
    (halias : isAlias item.aliasName.toList = true) :
    (ofText item.sql = .ok item ↔
      (∀ function ∈ item.expr.functionNames, isIdentifier function.toList = true) ∧
        (item.expr.text = item.aliasName → isIdentifier item.aliasName.toList = true) ∧
        isTopLevel item.expr.render = true) ∧
      ((splitAlias? (trim x.toList)).isSome = true → isTopLevel item.expr.render = true) := by
  obtain ⟨s, hblank, hexpr, hclosed⟩ := exists_of_parse_eq_ok h
  have hne : item.expr.render ≠ [] := hexpr ▸ render_parse_ne_nil hblank
  have htrim : trim item.expr.render = item.expr.render := hexpr ▸ trim_render_parse s
  refine ⟨?_, fun hsome => hexpr ▸ isTopLevel_render_parse (hclosed hsome)⟩
  rw [ofText]
  by_cases htext : item.expr.text = item.aliasName
  · have hcolumn := expr_eq_column_of_text_eq hexpr htext halias
    have hrender : item.expr.render = item.aliasName.toList := by rw [hcolumn, render]
    have hown : parse item.sql.toList = .ok item ↔ isIdentifier item.aliasName.toList = true := by
      rw [parse_sql_of_text_eq htext halias, ← unqualified_eq_self_iff halias, Except.ok.injEq]
      constructor
      · intro hitem
        have hname := congrArg (fun other => other.aliasName.toList) hitem
        simpa using hname
      · intro hname
        rw [hname, String.ofList_toList, ← hcolumn]
    rw [hown, hrender]
    constructor
    · intro hname
      exact ⟨by simp [hcolumn, functionNames], fun _ => hname,
        isTopLevel_of_isPlain (isPlain_of_isIdentifier hname)⟩
    · rintro ⟨-, hname, -⟩
      exact hname htext
  · have hnames : Expr.parse item.expr.render = item.expr ↔
        ∀ function ∈ item.expr.functionNames, isIdentifier function.toList = true := by
      rw [hexpr]
      exact parse_render_parse_iff s
    cases htop : isTopLevel item.expr.render with
    | false =>
      simp only [Bool.false_eq_true, and_false, iff_false]
      exact parse_sql_ne_of_not_isTopLevel htext htrim hne halias htop
    | true =>
      rw [parse_sql_of_isTopLevel htext htrim hne halias htop, Except.ok.injEq, ← hnames]
      constructor
      · intro hitem
        exact ⟨congrArg expr hitem, fun h => absurd h htext, rfl⟩
      · rintro ⟨hexpr', -, -⟩
        rw [hexpr']

theorem ofText_sql_eq_iff_total :
    ofText "Coalesce( SUM(price) ,0) AS \"Total (a)\"" =
        .ok ⟨.call "coalesce" [.call "sum" [.column "price"], .literal "0"], "\"Total (a)\""⟩ ∧
      isAlias "\"Total (a)\"".toList = true ∧
      ofText "coalesce(sum(price), 0) as \"Total (a)\"" =
        .ok ⟨.call "coalesce" [.call "sum" [.column "price"], .literal "0"], "\"Total (a)\""⟩ := by
  have hread : ofText "Coalesce( SUM(price) ,0) AS \"Total (a)\"" =
      .ok ⟨.call "coalesce" [.call "sum" [.column "price"], .literal "0"], "\"Total (a)\""⟩ := by
    decide +kernel
  have halias : isAlias "\"Total (a)\"".toList = true := by decide +kernel
  obtain ⟨hiff, htop⟩ := ofText_sql_eq_iff hread halias
  refine ⟨hread, halias, ?_⟩
  have hreread := hiff.2 ⟨by decide +kernel, by decide +kernel, htop (by decide +kernel)⟩
  rwa [show SelectItem.sql ⟨.call "coalesce" [.call "sum" [.column "price"], .literal "0"],
    "\"Total (a)\""⟩ = "coalesce(sum(price), 0) as \"Total (a)\"" by decide +kernel] at hreread

/-- A parenthesis in double quotes hides the alias of a column that went by its own name. -/
theorem not_ofText_sql_eq :
    ¬ ∀ (x : String) (item : SelectItem), ofText x = .ok item →
      isAlias item.aliasName.toList = true → ofText item.sql = .ok item := by
  intro h
  have hreread := h "\"a(\".b" ⟨.column "\"a(\".b", "b"⟩ (by decide +kernel) (by decide +kernel)
  exact absurd hreread (by decide +kernel)

end SelectItem

end TimeRollup
