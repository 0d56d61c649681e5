import TimeRollup.Text.CodePoints
import TimeRollup.Text.Letter

/-!
# Names of columns

A plain name starts with a letter or an underscore and goes on with letters, numbers, underscores and
dollar signs.  A quoted name is any text without a double quote, between double quotes, which belong
to the name as written.  A column reference is one or more such names with dots between them.
-/

namespace TimeRollup.Sql

open TimeRollup.Text

def isNameStart (c : Char) : Bool :=
  isLetter c || c == '_'

def isNamePart (c : Char) : Bool :=
  isLetter c || isNumber c || c == '_' || c == '$'

/-- Splits a plain name, as long as it goes, off the front. -/
def takeName? : List Char → Option (List Char × List Char)
  | [] => none
  | c :: rest =>
    if isNameStart c then some (c :: rest.takeWhile isNamePart, rest.dropWhile isNamePart)
    else none

/-- Splits a quoted name, with its quotes, off the front. -/
def takeQuoted? : List Char → Option (List Char × List Char)
  | '"' :: rest =>
    match rest.takeWhile (· != '"'), rest.dropWhile (· != '"') with
    | c :: name, '"' :: after => some ('"' :: c :: name ++ ['"'], after)
    | _, _ => none
  | _ => none

def takeComponent? (s : List Char) : Option (List Char × List Char) :=
  (takeQuoted? s).or (takeName? s)

theorem takeName?_eq_append {s name rest : List Char} (h : takeName? s = some (name, rest)) :
    s = name ++ rest := by
  cases s with
  | nil => simp [takeName?] at h
  | cons c s =>
    simp only [takeName?, Option.ite_none_right_eq_some, Option.some.injEq, Prod.mk.injEq] at h
    obtain ⟨-, rfl, rfl⟩ := h
    simp [List.takeWhile_append_dropWhile]

theorem takeName?_ne_nil {s name rest : List Char} (h : takeName? s = some (name, rest)) :
    name ≠ [] := by
  cases s with
  | nil => simp [takeName?] at h
  | cons c s =>
    simp only [takeName?, Option.ite_none_right_eq_some, Option.some.injEq, Prod.mk.injEq] at h
    obtain ⟨-, rfl, -⟩ := h
    simp

theorem takeQuoted?_eq_append {s name rest : List Char} (h : takeQuoted? s = some (name, rest)) :
    s = name ++ rest := by
  unfold takeQuoted? at h
  split at h
  · rename_i body
    split at h
    · rename_i c name after htake hdrop
      simp only [Option.some.injEq, Prod.mk.injEq] at h
      obtain ⟨rfl, rfl⟩ := h
      have hbody := List.takeWhile_append_dropWhile (p := (· != '"')) (l := body)
      rw [htake, hdrop] at hbody
      simp [← hbody]
    · simp at h
  · simp at h

theorem takeQuoted?_ne_nil {s name rest : List Char} (h : takeQuoted? s = some (name, rest)) :
    name ≠ [] := by
  unfold takeQuoted? at h
  split at h
  · split at h
    · simp only [Option.some.injEq, Prod.mk.injEq] at h
      simp [← h.1]
    · simp at h
  · simp at h

theorem takeComponent?_eq_append {s name rest : List Char}
    (h : takeComponent? s = some (name, rest)) : s = name ++ rest := by
  simp only [takeComponent?, Option.or_eq_some_iff] at h
  rcases h with h | ⟨-, h⟩
  · exact takeQuoted?_eq_append h
  · exact takeName?_eq_append h

theorem takeComponent?_ne_nil {s name rest : List Char}
    (h : takeComponent? s = some (name, rest)) : name ≠ [] := by
  simp only [takeComponent?, Option.or_eq_some_iff] at h
  rcases h with h | ⟨-, h⟩
  · exact takeQuoted?_ne_nil h
  · exact takeName?_ne_nil h

theorem takeComponent?_length_lt {s name rest : List Char}
    (h : takeComponent? s = some (name, rest)) : rest.length < s.length := by
  have hname := List.length_pos_iff.2 (takeComponent?_ne_nil h)
  rw [takeComponent?_eq_append h, List.length_append]
  omega

/-- The components of a column reference of at most the given number of components. -/
def columnPartsWithin? : Nat → List Char → Option (List (List Char))
  | 0, _ => none
  | bound + 1, s =>
    match takeComponent? s with
    | some (part, []) => some [part]
    | some (part, '.' :: rest) => (columnPartsWithin? bound rest).map (part :: ·)
    | _ => none

/-- The components of a column reference that takes up the whole text. -/
def columnParts? (s : List Char) : Option (List (List Char)) :=
  columnPartsWithin? s.length s

theorem columnPartsWithin?_nil (bound : Nat) : columnPartsWithin? bound [] = none := by
  cases bound <;> rfl

theorem columnPartsWithin?_eq_of_length_le {left right : Nat} {s : List Char}
    (hleft : s.length ≤ left) (hright : s.length ≤ right) :
    columnPartsWithin? left s = columnPartsWithin? right s := by
  induction left generalizing right s with
  | zero =>
    rw [List.length_eq_zero_iff.1 (Nat.le_zero.1 hleft)]
    simp [columnPartsWithin?_nil]
  | succ left ih =>
    cases right with
    | zero =>
      rw [List.length_eq_zero_iff.1 (Nat.le_zero.1 hright)]
      simp [columnPartsWithin?_nil]
    | succ right =>
      simp only [columnPartsWithin?]
      split
      · rfl
      · rename_i part rest hpart
        have hlength := takeComponent?_length_lt hpart
        simp only [List.length_cons] at hlength
        rw [@ih right rest (by omega) (by omega)]
      · rfl

/-- A column reference is a component alone, or a component, a dot and a column reference. -/
theorem columnParts?_eq (s : List Char) :
    columnParts? s =
      match takeComponent? s with
      | some (part, []) => some [part]
      | some (part, '.' :: rest) => (columnParts? rest).map (part :: ·)
      | _ => none := by
  have hbound : columnParts? s = columnPartsWithin? (s.length + 1) s :=
    columnPartsWithin?_eq_of_length_le (Nat.le_refl _) (Nat.le_succ _)
  rw [hbound, columnPartsWithin?]
  split
  · rfl
  · rename_i part rest hpart
    have hlength := takeComponent?_length_lt hpart
    simp only [List.length_cons] at hlength
    rw [columnPartsWithin?_eq_of_length_le (by omega) (Nat.le_refl _)]
    rfl
  · rfl

def isIdentifier (s : List Char) : Bool :=
  match takeName? s with
  | some (_, []) => true
  | _ => false

def isQuotedName (s : List Char) : Bool :=
  match takeQuoted? s with
  | some (_, []) => true
  | _ => false

/-- Can name an output column. -/
def isAlias (s : List Char) : Bool :=
  isIdentifier s || isQuotedName s

end TimeRollup.Sql
