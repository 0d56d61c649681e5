import Mathlib.Data.List.DropRight
import Mathlib.Tactic.Tauto
import TimeRollup.Proofs.Text.Lowercase
import TimeRollup.Proofs.Text.Words

/-!
# The grammar of names

A plain name goes on as long as the characters do that can belong to one, and a quoted name up to its
second quote, so a reader that splits a name off the front of a text splits off the longest one.  A column
reference is nothing but names with dots between them.
-/

namespace TimeRollup.Sql

open TimeRollup.Text

/-! ## Plain names -/

/-- A text is a plain name when its first character starts one and the others go on with it. -/
theorem isIdentifier_cons (c : Char) (s : List Char) :
    isIdentifier (c :: s) = (isNameStart c && s.all isNamePart) := by
  rw [Bool.eq_iff_iff, Bool.and_eq_true, List.all_eq_true, ← List.dropWhile_eq_nil_iff]
  cases hc : isNameStart c <;> cases hs : s.dropWhile isNamePart <;>
    simp [isIdentifier, takeName?, hc, hs]

theorem isNamePart_of_isIdentifier {s : List Char} (h : isIdentifier s = true) :
    ∀ c ∈ s, isNamePart c = true := by
  cases s with
  | nil => simp
  | cons first s =>
    rw [isIdentifier_cons, Bool.and_eq_true, List.all_eq_true] at h
    obtain ⟨hfirst, hparts⟩ := h
    have hpart : isNamePart first = true := by
      simp only [isNameStart, isNamePart, Bool.or_eq_true] at hfirst ⊢
      tauto
    exact List.forall_mem_cons.2 ⟨hpart, hparts⟩

theorem isPlain_of_isIdentifier {s : List Char} (h : isIdentifier s = true) :
    ∀ c ∈ s, isPlain c = true :=
  fun c hc => isPlain_of_isNamePart (isNamePart_of_isIdentifier h c hc)

theorem not_isNamePart_of_isBlank {c : Char} (h : isBlank c = true) : isNamePart c = false := by
  rw [Bool.eq_false_iff]
  intro hname
  simp [(isPlain_iff.1 (isPlain_of_isNamePart hname)).1] at h

theorem head_ne_quote_of_isIdentifier {c : Char} {s : List Char}
    (h : isIdentifier (c :: s) = true) : c ≠ '"' := by
  rintro rfl
  rw [isIdentifier_cons] at h
  have hquote : isNameStart '"' = false := by decide
  simp [hquote] at h

/-- A plain name is split off a text up to the first character that cannot go on with it. -/
theorem takeName?_eq_some_iff {s name rest : List Char} :
    takeName? s = some (name, rest) ↔
      isIdentifier name = true ∧ s = name ++ rest ∧ ∀ c ∈ rest.head?, isNamePart c = false := by
  constructor
  · intro h
    cases s with
    | nil => simp [takeName?] at h
    | cons first s =>
      simp only [takeName?, Option.ite_none_right_eq_some, Option.some.injEq, Prod.mk.injEq] at h
      obtain ⟨hfirst, rfl, rfl⟩ := h
      refine ⟨?_, by rw [List.cons_append, List.takeWhile_append_dropWhile], ?_⟩
      · rw [isIdentifier_cons, hfirst, Bool.true_and, List.all_eq_true]
        exact fun c => List.mem_takeWhile_imp
      · intro c hc
        have hhead := List.head?_dropWhile_not isNamePart s
        rw [hc] at hhead
        simpa using hhead
  · rintro ⟨hname, rfl, hrest⟩
    cases name with
    | nil => simp [isIdentifier, takeName?] at hname
    | cons first name =>
      rw [isIdentifier_cons, Bool.and_eq_true, List.all_eq_true] at hname
      obtain ⟨hfirst, hparts⟩ := hname
      rw [List.cons_append, takeName?, if_pos hfirst, takeWhile_run_append hparts hrest,
        dropWhile_run_append hparts hrest]

/-! ## Quoted names -/

theorem takeQuoted?_eq_some_iff {s name rest : List Char} :
    takeQuoted? s = some (name, rest) ↔
      ∃ content, content ≠ [] ∧ '"' ∉ content ∧ name = '"' :: (content ++ ['"']) ∧
        s = name ++ rest := by
  constructor
  · intro h
    have htext := takeQuoted?_eq_append h
    unfold takeQuoted? at h
    split at h
    · rename_i body
      split at h
      · rename_i c content after htake _
        simp only [Option.some.injEq, Prod.mk.injEq] at h
        refine ⟨c :: content, by simp, ?_, by simp [← h.1], htext⟩
        intro hquote
        have hmem := List.mem_takeWhile_imp (htake ▸ hquote)
        simp at hmem
      · simp at h
    · simp at h
  · rintro ⟨content, hne, hcontent, rfl, rfl⟩
    obtain ⟨c, content, rfl⟩ := List.exists_cons_of_ne_nil hne
    have hinside : ∀ d ∈ c :: content, (d != '"') = true := by
      intro d hd
      simp only [bne_iff_ne]
      rintro rfl
      exact hcontent hd
    have happend : '"' :: (c :: content ++ ['"']) ++ rest = '"' :: ((c :: content) ++ '"' :: rest) := by
      simp
    rw [happend, takeQuoted?, takeWhile_run_append hinside (by simp),
      dropWhile_run_append hinside (by simp)]
    simp

theorem isQuotedName_iff {name : List Char} :
    isQuotedName name = true ↔
      ∃ content, content ≠ [] ∧ '"' ∉ content ∧ name = '"' :: (content ++ ['"']) := by
  constructor
  · intro h
    unfold isQuotedName at h
    split at h
    · rename_i taken htake
      obtain ⟨content, hne, hcontent, rfl, htext⟩ := takeQuoted?_eq_some_iff.1 htake
      exact ⟨content, hne, hcontent, by simpa using htext⟩
    · simp at h
  · rintro ⟨content, hne, hcontent, hname⟩
    have htake := takeQuoted?_eq_some_iff.2
      ⟨content, hne, hcontent, hname, (List.append_nil name).symm⟩
    rw [isQuotedName, htake]

/-! ## Names of output columns -/

theorem isAlias_iff {name : List Char} :
    isAlias name = true ↔ isIdentifier name = true ∨ isQuotedName name = true := by
  simp [isAlias]

/-- A component is an alias that does not go on in what follows it. -/
theorem takeComponent?_eq_some_iff {s name rest : List Char} :
    takeComponent? s = some (name, rest) ↔
      s = name ++ rest ∧ (isQuotedName name = true ∨
        isIdentifier name = true ∧ ∀ c ∈ rest.head?, isNamePart c = false) := by
  rw [takeComponent?, Option.or_eq_some_iff, takeName?_eq_some_iff, isQuotedName_iff]
  constructor
  · rintro (hquoted | ⟨-, hname, htext, hrest⟩)
    · obtain ⟨content, hne, hcontent, hname, htext⟩ := takeQuoted?_eq_some_iff.1 hquoted
      exact ⟨htext, .inl ⟨content, hne, hcontent, hname⟩⟩
    · exact ⟨htext, .inr ⟨hname, hrest⟩⟩
  · rintro ⟨htext, ⟨content, hne, hcontent, hname⟩ | ⟨hname, hrest⟩⟩
    · exact .inl (takeQuoted?_eq_some_iff.2 ⟨content, hne, hcontent, hname, htext⟩)
    · refine .inr ⟨?_, hname, htext, hrest⟩
      cases name with
      | nil => simp [isIdentifier, takeName?] at hname
      | cons c name =>
        have hquote := head_ne_quote_of_isIdentifier hname
        rw [htext, List.cons_append]
        simp [takeQuoted?, hquote]

/-- An alias starts with a quote or with a character that starts a plain name. -/
theorem exists_eq_cons_of_isAlias {name : List Char} (h : isAlias name = true) :
    ∃ c rest, name = c :: rest ∧ (c = '"' ∨ isNameStart c = true) := by
  rcases isAlias_iff.1 h with hname | hquoted
  · cases name with
    | nil => simp [isIdentifier, takeName?] at hname
    | cons c rest =>
      rw [isIdentifier_cons, Bool.and_eq_true] at hname
      exact ⟨c, rest, rfl, .inr hname.1⟩
  · obtain ⟨content, -, -, rfl⟩ := isQuotedName_iff.1 hquoted
    exact ⟨'"', _, rfl, .inl rfl⟩

/-- An alias ends with a quote or with a character that belongs to a plain name. -/
theorem exists_eq_concat_of_isAlias {name : List Char} (h : isAlias name = true) :
    ∃ front c, name = front ++ [c] ∧ (c = '"' ∨ isNamePart c = true) := by
  rcases isAlias_iff.1 h with hname | hquoted
  · obtain ⟨front, c, rfl⟩ := (List.eq_nil_or_concat' name).resolve_left (by
      rintro rfl
      simp [isIdentifier, takeName?] at hname)
    exact ⟨front, c, rfl, .inr (isNamePart_of_isIdentifier hname c (by simp))⟩
  · obtain ⟨content, -, -, rfl⟩ := isQuotedName_iff.1 hquoted
    exact ⟨'"' :: content, '"', rfl, .inl rfl⟩

theorem not_isBlank_of_start {c : Char} (h : c = '"' ∨ isNameStart c = true) :
    isBlank c = false := by
  rcases h with rfl | hstart
  · decide
  · have hname : isIdentifier [c] = true := by rw [isIdentifier_cons, hstart]; rfl
    exact (isPlain_iff.1 (isPlain_of_isIdentifier hname c (by simp))).1

theorem not_isBlank_of_end {c : Char} (h : c = '"' ∨ isNamePart c = true) : isBlank c = false := by
  rcases h with rfl | hpart
  · decide
  · exact (isPlain_iff.1 (isPlain_of_isNamePart hpart)).1

theorem head_of_isAlias {name : List Char} (h : isAlias name = true) :
    ∃ c rest, name = c :: rest ∧ isBlank c = false := by
  obtain ⟨c, rest, rfl, hc⟩ := exists_eq_cons_of_isAlias h
  exact ⟨c, rest, rfl, not_isBlank_of_start hc⟩

theorem getLast?_of_isAlias {name : List Char} (h : isAlias name = true) :
    ∃ front c, name = front ++ [c] ∧ isBlank c = false := by
  obtain ⟨front, c, rfl, hc⟩ := exists_eq_concat_of_isAlias h
  exact ⟨front, c, rfl, not_isBlank_of_end hc⟩

/-! ## Column references -/

/-- Names, plain or quoted, with dots between them. -/
def IsColumn (s : List Char) : Prop :=
  ∃ parts, parts ≠ [] ∧ (∀ part ∈ parts, isAlias part = true) ∧ s = ['.'].intercalate parts

theorem intercalate_dot_cons (part next : List Char) (parts : List (List Char)) :
    ['.'].intercalate (part :: next :: parts) = part ++ '.' :: ['.'].intercalate (next :: parts) := by
  simp [List.intercalate_cons_cons]

theorem takeComponent?_of_isAlias {part rest : List Char} (h : isAlias part = true)
    (hrest : ∀ c ∈ rest.head?, isNamePart c = false) :
    takeComponent? (part ++ rest) = some (part, rest) :=
  takeComponent?_eq_some_iff.2
    ⟨rfl, (isAlias_iff.1 h).symm.imp_right fun hname => ⟨hname, hrest⟩⟩

theorem isAlias_of_takeComponent? {s part rest : List Char}
    (h : takeComponent? s = some (part, rest)) : isAlias part = true :=
  isAlias_iff.2 ((takeComponent?_eq_some_iff.1 h).2.symm.imp_left And.left)

/-- The components of a column reference are the names between its dots. -/
theorem columnParts?_eq_some_iff {s : List Char} {parts : List (List Char)} :
    columnParts? s = some parts ↔
      parts ≠ [] ∧ (∀ part ∈ parts, isAlias part = true) ∧ s = ['.'].intercalate parts := by
  constructor
  · intro h
    induction hlength : s.length using Nat.strong_induction_on generalizing s parts with
    | _ length ih =>
      rw [columnParts?_eq] at h
      split at h
      · rename_i part hpart
        obtain rfl : [part] = parts := by simpa using h
        have htext := takeComponent?_eq_append hpart
        refine ⟨by simp, by simpa using isAlias_of_takeComponent? hpart, ?_⟩
        simpa [List.intercalate] using htext
      · rename_i part rest hpart
        obtain ⟨later, hlater, rfl⟩ := Option.map_eq_some_iff.1 h
        have hshort := takeComponent?_length_lt hpart
        rw [List.length_cons] at hshort
        obtain ⟨hne, hnames, rfl⟩ := ih rest.length (by omega) hlater rfl
        obtain ⟨next, later, rfl⟩ := List.exists_cons_of_ne_nil hne
        refine ⟨by simp, List.forall_mem_cons.2 ⟨isAlias_of_takeComponent? hpart, hnames⟩, ?_⟩
        rw [intercalate_dot_cons, takeComponent?_eq_append hpart]
      · simp at h
  · rintro ⟨hne, hnames, rfl⟩
    induction parts with
    | nil => exact absurd rfl hne
    | cons part parts ih =>
      obtain ⟨hpart, hlater⟩ := List.forall_mem_cons.1 hnames
      cases parts with
      | nil =>
        have hread := @takeComponent?_of_isAlias part [] hpart (by simp)
        rw [List.append_nil] at hread
        rw [show ['.'].intercalate [part] = part by simp [List.intercalate], columnParts?_eq, hread]
      | cons next parts =>
        have hread := @takeComponent?_of_isAlias part ('.' :: ['.'].intercalate (next :: parts))
          hpart (by simp; decide)
        rw [intercalate_dot_cons, columnParts?_eq, hread]
        simp only [ih (List.cons_ne_nil next parts) hlater, Option.map_some]

theorem isSome_columnParts?_iff {s : List Char} : (columnParts? s).isSome = true ↔ IsColumn s := by
  simp only [Option.isSome_iff_exists, columnParts?_eq_some_iff, IsColumn]

/-- A column reference starts with a quote or with a character that starts a plain name. -/
theorem IsColumn.exists_eq_cons {s : List Char} (h : IsColumn s) :
    ∃ c rest, s = c :: rest ∧ (c = '"' ∨ isNameStart c = true) := by
  obtain ⟨parts, hne, hnames, rfl⟩ := h
  obtain ⟨part, later, rfl⟩ := List.exists_cons_of_ne_nil hne
  obtain ⟨c, rest, rfl, hc⟩ := exists_eq_cons_of_isAlias (hnames part List.mem_cons_self)
  cases later with
  | nil => exact ⟨c, rest, by simp [List.intercalate], hc⟩
  | cons next later => exact ⟨c, _, by rw [intercalate_dot_cons, List.cons_append], hc⟩

/-- A column reference ends with a quote or with a character that belongs to a plain name. -/
theorem IsColumn.exists_eq_concat {s : List Char} (h : IsColumn s) :
    ∃ front c, s = front ++ [c] ∧ (c = '"' ∨ isNamePart c = true) := by
  obtain ⟨parts, hne, hnames, rfl⟩ := h
  induction parts with
  | nil => exact absurd rfl hne
  | cons part parts ih =>
    obtain ⟨hpart, hlater⟩ := List.forall_mem_cons.1 hnames
    cases parts with
    | nil => simpa [List.intercalate] using exists_eq_concat_of_isAlias hpart
    | cons next parts =>
      obtain ⟨front, c, hfront, hc⟩ := ih (List.cons_ne_nil next parts) hlater
      exact ⟨part ++ '.' :: front, c, by simp [hfront], hc⟩

/-- The last component ends a column reference, and a dot stands before it unless it is the only one. -/
theorem intercalate_dot_concat (parts : List (List Char)) (last : List Char) :
    ['.'].intercalate (parts ++ [last]) = parts.flatMap (· ++ ['.']) ++ last := by
  induction parts with
  | nil => simp [List.intercalate]
  | cons part parts ih =>
    obtain ⟨next, later, hlater⟩ :=
      List.exists_cons_of_ne_nil (show parts ++ [last] ≠ [] by simp)
    rw [List.cons_append, hlater, intercalate_dot_cons, ← hlater, ih, List.flatMap_cons]
    simp

theorem getLast?_flatMap_dot (parts : List (List Char)) :
    ∀ c ∈ (parts.flatMap (· ++ ['.'])).getLast?, c = '.' := by
  rcases List.eq_nil_or_concat' parts with rfl | ⟨front, part, rfl⟩
  · simp
  · intro c hc
    rw [List.flatMap_append, List.flatMap_singleton, ← List.append_assoc,
      List.getLast?_concat] at hc
    exact (Option.some.inj hc).symm

theorem isColumn_of_isAlias {name : List Char} (h : isAlias name = true) : IsColumn name :=
  ⟨[name], by simp, by simpa using h, by simp [List.intercalate]⟩

end TimeRollup.Sql
