import TimeRollup.Proofs.Expr.Grammar
import TimeRollup.Proofs.SelectItem.AliasSplit

/-!
# Columns without an alias

A column that stands alone is read as that column, whatever is in its quotes.  Its alias is what follows
the last dot of the text, and dots in double quotes count.  So the alias is the last component without its
quotes if that has no dot, and only the end of what is in the quotes if it has one.
-/

namespace TimeRollup

open TimeRollup.Text TimeRollup.Sql TimeRollup.Expr

namespace Sql

/-- A quoted name without its quotes, or a plain name as it is. -/
def unquoted : List Char → List Char
  | '"' :: rest => rest.dropLast
  | name => name

theorem unquoted_quoted (content : List Char) : unquoted ('"' :: (content ++ ['"'])) = content := by
  simp [unquoted]

theorem unquoted_of_isIdentifier {name : List Char} (h : isIdentifier name = true) :
    unquoted name = name := by
  unfold unquoted
  split
  · exact absurd rfl (head_ne_quote_of_isIdentifier h)
  · rfl

theorem dot_notMem_of_isIdentifier {name : List Char} (h : isIdentifier name = true) :
    '.' ∉ name := by
  intro hdot
  exact absurd (isNamePart_of_isIdentifier h '.' hdot) (by decide)

theorem unquoted_ne_nil {name : List Char} (h : isAlias name = true) : unquoted name ≠ [] := by
  rcases isAlias_iff.1 h with hname | hquoted
  · obtain ⟨c, rest, rfl, -⟩ := exists_eq_cons_of_isAlias h
    rw [unquoted_of_isIdentifier hname]
    exact List.cons_ne_nil c rest
  · obtain ⟨content, hne, -, rfl⟩ := isQuotedName_iff.1 hquoted
    rwa [unquoted_quoted]

theorem dot_mem_unquoted_iff {name : List Char} (h : isAlias name = true) :
    '.' ∈ unquoted name ↔ '.' ∈ name := by
  rcases isAlias_iff.1 h with hname | hquoted
  · rw [unquoted_of_isIdentifier hname]
  · obtain ⟨content, -, -, rfl⟩ := isQuotedName_iff.1 hquoted
    simp [unquoted_quoted]

end Sql

namespace Text

/-- What follows the last dot of a text, or all of it. -/
def afterLastDot (s : List Char) : List Char :=
  s.rtakeWhile (· != '.')

theorem dot_notMem_afterLastDot (s : List Char) : '.' ∉ afterLastDot s := by
  intro hdot
  have hne := List.mem_rtakeWhile_imp hdot
  simp at hne

theorem eq_afterLastDot_or_exists (s : List Char) :
    s = afterLastDot s ∨ ∃ before, s = before ++ '.' :: afterLastDot s := by
  have hsplit : s.rdropWhile (· != '.') ++ afterLastDot s = s :=
    List.rdropWhile_append_rtakeWhile ..
  rcases List.eq_nil_or_concat' (s.rdropWhile (· != '.')) with hnil | ⟨before, c, hconcat⟩
  · rw [hnil, List.nil_append] at hsplit
    exact .inl hsplit.symm
  · have hdot : c = '.' := by
      have hlast := List.rdropWhile_last_not (· != '.') s (by simp [hconcat])
      simpa [hconcat] using hlast
    rw [hconcat, hdot, List.append_assoc] at hsplit
    exact .inr ⟨before, hsplit.symm⟩

theorem afterLastDot_eq_self_iff {s : List Char} : afterLastDot s = s ↔ '.' ∉ s := by
  rw [afterLastDot, List.rtakeWhile_eq_self_iff]
  simpa using List.forall_mem_ne'

theorem afterLastDot_eq_nil_iff {s : List Char} (hne : s ≠ []) :
    afterLastDot s = [] ↔ ∃ before, s = before ++ ['.'] := by
  constructor
  · intro hnil
    rcases eq_afterLastDot_or_exists s with hself | ⟨before, hdot⟩
    · exact absurd (hself.trans hnil) hne
    · exact ⟨before, by rwa [hnil] at hdot⟩
  · rintro ⟨before, rfl⟩
    exact List.rtakeWhile_concat_neg _ _ _ (by simp)

end Text

namespace SelectItem

/-! ## What follows the last dot -/

/-- What stands before a dot does not matter. -/
theorem unqualified_append_dot (before after : List Char) :
    unqualified (before ++ '.' :: after) = unqualified after := by
  have htake : (before ++ '.' :: after).reverse.takeWhile (· != '.') =
      after.reverse.takeWhile (· != '.') := by
    rw [List.reverse_append, List.reverse_cons, List.append_assoc, List.takeWhile_append]
    split
    · rename_i hlength
      rw [List.singleton_append, List.takeWhile_cons_of_neg (by simp), List.append_nil]
      exact ((List.takeWhile_prefix _).eq_of_length hlength).symm
    · rfl
  rw [unqualified, htake, unqualified]

theorem unqualified_of_dot_notMem {s : List Char} (h : '.' ∉ s) :
    unqualified s = (s.rdropWhile (· == '"')).dropWhile (· == '"') := by
  have htake : s.reverse.takeWhile (· != '.') = s.reverse := by
    rw [List.takeWhile_eq_self_iff]
    simpa using List.forall_mem_ne'.2 h
  rw [unqualified, htake]
  rfl

/-- Quotes around a text without quotes and dots are left out. -/
theorem unqualified_between_quotes {opening body closing : List Char}
    (hopening : ∀ c ∈ opening, c = '"') (hclosing : ∀ c ∈ closing, c = '"')
    (hquote : '"' ∉ body) (hdot : '.' ∉ body) :
    unqualified (opening ++ body ++ closing) = body := by
  have hquotes {quotes : List Char} (h : ∀ c ∈ quotes, c = '"') :
      '.' ∉ quotes ∧ ∀ c ∈ quotes, (c == '"') = true :=
    ⟨fun hmem => absurd (h '.' hmem) (by decide), fun c hc => beq_iff_eq.2 (h c hc)⟩
  have hbody : ∀ c ∈ body, (c == '"') = false := by
    simpa using List.forall_mem_ne'.2 hquote
  rw [unqualified_of_dot_notMem (by simp [hdot, hquotes hopening, hquotes hclosing])]
  rcases List.eq_nil_or_concat' body with rfl | ⟨front, c, rfl⟩
  · have hall : ∀ c ∈ opening ++ [] ++ closing, (c == '"') = true := by
      simpa [or_imp, forall_and] using And.intro hopening hclosing
    rw [List.rdropWhile_eq_nil_iff.2 hall]
    rfl
  · have hend : ∀ d ∈ (opening ++ (front ++ [c])).getLast?, (d == '"') = false := by
      rw [← List.append_assoc, List.getLast?_concat]
      rintro _ ⟨⟩
      exact hbody c (by simp)
    rw [rdropWhile_append_run hend (hquotes hclosing).2]
    refine dropWhile_run_append (hquotes hopening).2 ?_
    exact fun d hd => hbody d (List.mem_of_mem_head? hd)

/-- Of a quoted name as of a plain one, what follows the last dot is left, without the quotes. -/
theorem unqualified_of_isAlias {name : List Char} (h : isAlias name = true) :
    unqualified name = afterLastDot (unquoted name) := by
  rcases isAlias_iff.1 h with hname | hquoted
  · have hquote : '"' ∉ name := fun hmem =>
      absurd (isNamePart_of_isIdentifier hname '"' hmem) (by decide)
    have hdot := dot_notMem_of_isIdentifier hname
    rw [unquoted_of_isIdentifier hname, afterLastDot_eq_self_iff.2 hdot]
    simpa using @unqualified_between_quotes [] name [] (by simp) (by simp) hquote hdot
  · obtain ⟨content, -, hcontent, rfl⟩ := isQuotedName_iff.1 hquoted
    rw [unquoted_quoted]
    have hquote : '"' ∉ afterLastDot content := fun hmem =>
      hcontent ((List.rtakeWhile_suffix _ _).subset hmem)
    have hbetween {opening : List Char} (hopening : ∀ c ∈ opening, c = '"') :
        unqualified (opening ++ afterLastDot content ++ ['"']) = afterLastDot content :=
      unqualified_between_quotes hopening (by simp) hquote (dot_notMem_afterLastDot content)
    -- the opening quote is left only if no dot comes after it
    rcases eq_afterLastDot_or_exists content with hself | ⟨before, hdot⟩
    · rw [← hself] at hbetween
      simpa [← hself] using @hbetween ['"'] (by simp)
    · have htext : '"' :: (content ++ ['"']) =
          '"' :: before ++ '.' :: (afterLastDot content ++ ['"']) := by
        conv_lhs => rw [hdot]
        simp
      rw [htext, unqualified_append_dot]
      simpa using @hbetween [] (by simp)

/-- A plain name is its own alias, and a quoted one never is. -/
theorem unqualified_eq_self_iff {name : List Char} (h : isAlias name = true) :
    unqualified name = name ↔ isIdentifier name = true := by
  rw [unqualified_of_isAlias h]
  constructor
  · intro hself
    refine (isAlias_iff.1 h).resolve_right fun hquoted => ?_
    obtain ⟨content, -, -, rfl⟩ := isQuotedName_iff.1 hquoted
    rw [unquoted_quoted] at hself
    have hlength : (afterLastDot content).length ≤ content.length :=
      (List.rtakeWhile_suffix _ content).length_le
    have hlonger : content.length < ('"' :: (content ++ ['"'])).length := by
      simp only [List.length_cons, List.length_append]
      omega
    rw [hself] at hlength
    exact Nat.not_le.2 hlonger hlength
  · intro hname
    rw [unquoted_of_isIdentifier hname, afterLastDot_eq_self_iff]
    exact dot_notMem_of_isIdentifier hname

/-! ## Columns alone -/

theorem trim_of_ends {front rest : List Char} {c d : Char} (hc : isBlank c = false)
    (hd : isBlank d = false) (h : c :: rest = front ++ [d]) : trim (c :: rest) = c :: rest := by
  rw [trim, trimStart_eq_of_head hc, h, trimEnd_eq_rdropWhile,
    List.rdropWhile_concat_neg _ _ _ (by simp [hd])]

theorem trim_of_isColumn {s : List Char} (h : IsColumn s) : trim s = s := by
  obtain ⟨c, rest, rfl, hc⟩ := h.exists_eq_cons
  obtain ⟨front, d, hlast, hd⟩ := h.exists_eq_concat
  exact trim_of_ends (not_isBlank_of_start hc) (not_isBlank_of_end hd) hlast

/-- No alias is split off a column: an alias follows a space, and the last component of a column a dot. -/
theorem splitAlias?_of_isColumn {s : List Char} (h : IsColumn s) : splitAlias? s = none := by
  rw [Option.eq_none_iff_forall_ne_some]
  rintro ⟨e, found⟩ hsplit
  obtain ⟨left, suffix, htext, -, hsuffix, -⟩ := splitAlias?_eq_some_iff.1 hsplit
  obtain @⟨gap, space, tail, a, b, -, -, -, hspace_ne, hspace, hfound, htail⟩ := hsuffix
  obtain ⟨parts, hne, hnames, rfl⟩ := h
  obtain ⟨parts, last, rfl⟩ := (List.eq_nil_or_concat' parts).resolve_left hne
  rw [intercalate_dot_concat] at htext
  have hlast : isAlias last = true := hnames last (by simp)
  have hrun : parts.flatMap (· ++ ['.']) ++ last ++ [] =
      (left ++ gap ++ [a, b] ++ space ++ found) ++ tail := by simpa using htext
  obtain ⟨hnamed, -⟩ := append_inj_of_run (getLast?_append_of_isAlias hlast)
    (getLast?_append_of_isAlias hfound) (by simp) htail hrun
  have hblank : ∀ c ∈ (left ++ gap ++ [a, b] ++ space).getLast?, isBlank c = true :=
    getLast?_append_of_isSpace hspace_ne hspace
  have hdot : ∀ c ∈ (parts.flatMap (· ++ ['.'])).getLast?, isNamePart c = false := by
    intro c hc
    rw [getLast?_flatMap_dot parts c hc]
    decide
  obtain ⟨hfront, -⟩ := append_inj_of_name hlast hfound hdot
    (fun c hc => not_isNamePart_of_isBlank (hblank c hc)) hnamed
  obtain ⟨c, hc⟩ : ∃ c, (left ++ gap ++ [a, b] ++ space).getLast? = some c :=
    Option.isSome_iff_exists.1 (List.getLast?_isSome.2 (by simp))
  have hblank_dot := hblank c hc
  rw [getLast?_flatMap_dot parts c (hfront ▸ hc)] at hblank_dot
  exact absurd hblank_dot (by decide)

/-- An entry is read from an expression and the alias behind it, or from a column alone. -/
theorem parse_eq_ok_iff {text : List Char} {item : SelectItem} :
    parse text = .ok item ↔ trim text ≠ [] ∧
      ((∃ e name, splitAlias? (trim text) = some (e, name) ∧
          item = ⟨Expr.parse e, String.ofList name⟩) ∨
        splitAlias? (trim text) = none ∧ ∃ name, Expr.parse (trim text) = .column name ∧
          item = ⟨.column name, String.ofList (unqualified name.toList)⟩) := by
  rw [parse]
  cases htext : trim text with
  | nil => simp
  | cons c rest =>
    rw [if_neg (by simp)]
    cases hsplit : splitAlias? (c :: rest) with
    | some parts =>
      obtain ⟨e, name⟩ := parts
      simp [eq_comm]
    | none => cases Expr.parse (c :: rest) <;> simp [eq_comm]

theorem parse_of_isColumn {text : List Char} (h : IsColumn (trim text)) :
    parse text =
      .ok ⟨.column (String.ofList (trim text)), String.ofList (unqualified (trim text))⟩ := by
  have hcolumn : Expr.parse (trim text) = .column (String.ofList (trim text)) := by
    rw [parse_eq_atom (by rw [trim_trim, call?_of_isColumn h]), trim_trim, ofAtom_of_isColumn h]
  obtain ⟨c, rest, hcons, -⟩ := h.exists_eq_cons
  refine parse_eq_ok_iff.2 ⟨by simp [hcons], .inr ⟨splitAlias?_of_isColumn h, _, hcolumn, ?_⟩⟩
  rw [String.toList_ofList]

theorem unqualified_intercalate_dot (parts : List (List Char)) (last : List Char) :
    unqualified (['.'].intercalate (parts ++ [last])) = unqualified last := by
  rw [intercalate_dot_concat]
  rcases List.eq_nil_or_concat' parts with rfl | ⟨front, part, rfl⟩
  · rfl
  · have htext : (front ++ [part]).flatMap (· ++ ['.']) ++ last =
        front.flatMap (· ++ ['.']) ++ part ++ '.' :: last := by simp
    rw [htext, unqualified_append_dot]

/-- A column alone is read as that column, and its alias is what follows the last dot of its last
component without quotes.  That is the whole component if there is no dot in it, and nothing if a dot
ends it. -/
theorem ofText_of_columnParts? {s : String} {parts : List (List Char)} {last : List Char}
    (h : columnParts? (trim s.toList) = some (parts ++ [last])) :
    ∃ aliasName, ofText s = .ok ⟨.column (String.ofList (trim s.toList)), String.ofList aliasName⟩ ∧
      '.' ∉ aliasName ∧
      (unquoted last = aliasName ∨ ∃ before, unquoted last = before ++ '.' :: aliasName) ∧
      (aliasName = unquoted last ↔ '.' ∉ last) ∧
      (aliasName = [] ↔ ∃ before, unquoted last = before ++ ['.']) := by
  obtain ⟨hne, hnames, htext⟩ := columnParts?_eq_some_iff.1 h
  have hlast : isAlias last = true := hnames last (by simp)
  have hread : ofText s = .ok ⟨.column (String.ofList (trim s.toList)),
      String.ofList (afterLastDot (unquoted last))⟩ := by
    rw [ofText, parse_of_isColumn ⟨_, hne, hnames, htext⟩, ← unqualified_of_isAlias hlast,
      ← unqualified_intercalate_dot parts last, ← htext]
  refine ⟨_, hread, dot_notMem_afterLastDot _, eq_afterLastDot_or_exists _, ?_,
    afterLastDot_eq_nil_iff (unquoted_ne_nil hlast)⟩
  rw [afterLastDot_eq_self_iff, dot_mem_unquoted_iff hlast]

theorem ofText_of_columnParts?_total :
    columnParts? (trim " my.\"old schema\".\"Total (a)\"".toList) =
        some (["my".toList, "\"old schema\"".toList] ++ ["\"Total (a)\"".toList]) ∧
      ofText " my.\"old schema\".\"Total (a)\"" =
        .ok ⟨.column "my.\"old schema\".\"Total (a)\"", "Total (a)"⟩ := by
  have hparts : columnParts? (trim " my.\"old schema\".\"Total (a)\"".toList) =
      some (["my".toList, "\"old schema\"".toList] ++ ["\"Total (a)\"".toList]) := by
    decide +kernel
  refine ⟨hparts, ?_⟩
  obtain ⟨aliasName, hread, -, -, hwhole, -⟩ := ofText_of_columnParts? hparts
  rw [hread, hwhole.2 (by decide)]
  decide +kernel

/-- Of a quoted name with a dot, the alias is only the part behind the dot, and there may be none. -/
theorem not_ofText_eq_unquoted :
    (¬ ∀ (s : String) (parts : List (List Char)) (last : List Char),
      columnParts? (trim s.toList) = some (parts ++ [last]) →
        ∃ e, ofText s = .ok ⟨e, String.ofList (unquoted last)⟩) ∧
      ¬ ∀ (s : String) (parts : List (List Char)) (last : List Char),
        columnParts? (trim s.toList) = some (parts ++ [last]) →
          ∃ e aliasName, ofText s = .ok ⟨e, aliasName⟩ ∧ aliasName ≠ "" := by
  constructor
  · intro h
    obtain ⟨e, hread⟩ := h "\"a.b\"" [] "\"a.b\"".toList (by decide +kernel)
    have hfragment : ofText "\"a.b\"" = .ok ⟨.column "\"a.b\"", "b"⟩ := by decide +kernel
    have halias : "b" = String.ofList (unquoted "\"a.b\"".toList) :=
      congrArg SelectItem.aliasName (Except.ok.inj (hfragment.symm.trans hread))
    exact absurd halias (by decide +kernel)
  · intro h
    obtain ⟨e, aliasName, hread, hne⟩ := h "\"a.\"" [] "\"a.\"".toList (by decide +kernel)
    have hempty : ofText "\"a.\"" = .ok ⟨.column "\"a.\"", ""⟩ := by decide +kernel
    rw [hempty] at hread
    cases hread
    exact hne rfl

end SelectItem

end TimeRollup
