import TimeRollup.Expr.Basic
import TimeRollup.Sql.Name
import TimeRollup.Text.Blank
import TimeRollup.Text.Lowercase

/-!
# Reading select expressions

Every text is some expression: what is no star, constant, column reference or function call is raw
text.  Arguments of a call are cut at the commas outside of parentheses and single quotes, and each is
read as an expression of its own, so that reading ends because the pieces get shorter.
-/

namespace TimeRollup.Expr

open TimeRollup.Text TimeRollup.Sql

/-- The separators between the tokens of an expression. -/
def isSpace (c : Char) : Bool :=
  c == ' ' || c == '\t' || c == '\r' || c == '\n'

def skipSpace (s : List Char) : List Char :=
  s.dropWhile isSpace

/-- A text in single quotes without a single quote inside. -/
def isQuotedText : List Char → Bool
  | '\'' :: rest => rest.dropWhile (· != '\'') == ['\'']
  | _ => false

/-- Digits, perhaps with a point and more digits behind them. -/
def isUnsignedNumber (s : List Char) : Bool :=
  match s.takeWhile Char.isDigit, s.dropWhile Char.isDigit with
  | _ :: _, [] => true
  | _ :: _, '.' :: fraction => !fraction.isEmpty && fraction.all Char.isDigit
  | _, _ => false

def isNumeral : List Char → Bool
  | '-' :: rest => isUnsignedNumber rest
  | s => isUnsignedNumber s

def isLiteral (s : List Char) : Bool :=
  isQuotedText s || isNumeral s

/-- Puts a character in front of the first piece. -/
def extendFirst (c : Char) : List (List Char) → List (List Char)
  | [] => [[c]]
  | piece :: pieces => (c :: piece) :: pieces

/-- Cuts a text at the commas at nesting depth zero, outside of single quotes, if a closing parenthesis
at depth zero ends it.  The text starts at the given depth. -/
def pieces? (depth : Nat) (quoted : Bool) : List Char → Option (List (List Char))
  | [] => none
  | c :: rest =>
    if c == '\'' then (pieces? depth (!quoted) rest).map (extendFirst c)
    else if quoted then (pieces? depth quoted rest).map (extendFirst c)
    else if c == '(' then (pieces? (depth + 1) quoted rest).map (extendFirst c)
    else if c == ')' && depth == 0 then if rest.isEmpty then some [[]] else none
    else if c == ',' && depth == 0 then (pieces? depth quoted rest).map ([] :: ·)
    else if c == ')' then (pieces? (depth - 1) quoted rest).map (extendFirst c)
    else (pieces? depth quoted rest).map (extendFirst c)

/-- The arguments of a call whose opening parenthesis is behind us and whose closing parenthesis ends
the text.  There is at least one, and none is blank. -/
def arguments? (s : List Char) : Option (List (List Char)) :=
  (pieces? 0 false s).filter fun pieces => !pieces.any (·.all isBlank)

/-- The function name and the arguments of a text that is one call. -/
def call? (s : List Char) : Option (List Char × List (List Char)) :=
  match takeName? s with
  | none => none
  | some (function, rest) =>
    match skipSpace rest with
    | '(' :: rest =>
      match skipSpace rest with
      | [')'] => some (function, [])
      | body => (arguments? body).map (function, ·)
    | _ => none

theorem pieces?_ne_nil {depth : Nat} {quoted : Bool} {s : List Char}
    {pieces : List (List Char)} (h : pieces? depth quoted s = some pieces) : pieces ≠ [] := by
  cases s with
  | nil => simp [pieces?] at h
  | cons c rest =>
    have hextend (later : Option (List (List Char)))
        (h : later.map (extendFirst c) = some pieces) : pieces ≠ [] := by
      obtain ⟨later, -, rfl⟩ := Option.map_eq_some_iff.1 h
      cases later <;> simp [extendFirst]
    simp only [pieces?] at h
    split at h
    · exact hextend _ h
    split at h
    · exact hextend _ h
    split at h
    · exact hextend _ h
    split at h
    · split at h
      · simp only [Option.some.injEq] at h
        simp [← h]
      · simp at h
    split at h
    · obtain ⟨later, -, rfl⟩ := Option.map_eq_some_iff.1 h
      simp
    split at h
    · exact hextend _ h
    · exact hextend _ h

theorem length_lt_of_mem_pieces? {depth : Nat} {quoted : Bool} {s piece : List Char}
    {pieces : List (List Char)} (h : pieces? depth quoted s = some pieces)
    (hmem : piece ∈ pieces) : piece.length < s.length := by
  induction s generalizing depth quoted piece pieces with
  | nil => simp [pieces?] at h
  | cons c rest ih =>
    have hlater {depth : Nat} {quoted : Bool}
        (h : (pieces? depth quoted rest).map (extendFirst c) = some pieces) :
        piece.length < (c :: rest).length := by
      obtain ⟨later, hlater, rfl⟩ := Option.map_eq_some_iff.1 h
      cases later with
      | nil => exact absurd rfl (pieces?_ne_nil hlater)
      | cons first later =>
        simp only [extendFirst, List.mem_cons] at hmem
        rcases hmem with rfl | hmem
        · have := ih hlater List.mem_cons_self
          simp only [List.length_cons]
          omega
        · have := ih hlater (List.mem_cons_of_mem _ hmem)
          simp only [List.length_cons]
          omega
    simp only [pieces?] at h
    split at h
    · exact hlater h
    split at h
    · exact hlater h
    split at h
    · exact hlater h
    split at h
    · split at h
      · simp only [Option.some.injEq] at h
        simp only [← h, List.mem_singleton] at hmem
        simp [hmem]
      · simp at h
    split at h
    · obtain ⟨later, hrest, rfl⟩ := Option.map_eq_some_iff.1 h
      rcases List.mem_cons.1 hmem with rfl | hmem
      · simp
      · exact Nat.lt_succ_of_lt (ih hrest hmem)
    split at h
    · exact hlater h
    · exact hlater h

theorem length_lt_of_mem_call? {s function argument : List Char} {arguments : List (List Char)}
    (h : call? s = some (function, arguments)) (hmem : argument ∈ arguments) :
    argument.length < s.length := by
  unfold call? at h
  split at h
  · simp at h
  rename_i name rest hname
  split at h
  · rename_i body hbody
    split at h
    · simp only [Option.some.injEq, Prod.mk.injEq] at h
      simp [← h.2] at hmem
    · obtain ⟨arguments', harguments, heq⟩ := Option.map_eq_some_iff.1 h
      simp only [Prod.mk.injEq] at heq
      obtain ⟨-, rfl⟩ := heq
      have hargument := length_lt_of_mem_pieces? (Option.filter_eq_some_iff.1 harguments).1 hmem
      have hinner : (body.dropWhile isSpace).length ≤ body.length :=
        (List.dropWhile_sublist isSpace).length_le
      have houter : (rest.dropWhile isSpace).length ≤ rest.length :=
        (List.dropWhile_sublist isSpace).length_le
      rw [takeName?_eq_append hname, List.length_append]
      simp only [skipSpace] at hbody hargument
      rw [hbody] at houter
      simp only [List.length_cons] at houter
      omega
  · simp at h

/-- An expression that is no call, from a text without blank characters around it. -/
def ofAtom (s : List Char) : Expr :=
  if s = ['*'] then .star
  else if isLiteral s then .literal (String.ofList s)
  else if (columnParts? s).isSome then .column (String.ofList s)
  else .raw (String.ofList s)

/-- Reads calls within calls down to the given depth. -/
def parseWithin : Nat → List Char → Expr
  | 0, s => .raw (String.ofList (trim s))
  | depth + 1, s =>
    match call? (trim s) with
    | some (function, arguments) =>
      .call (String.ofList (lower function)) (arguments.map (parseWithin depth))
    | none => ofAtom (trim s)

/-- No text nests calls deeper than it is long. -/
def parse (s : List Char) : Expr :=
  parseWithin (s.length + 1) s

/-- The expression that a text stands for. -/
def ofText (s : String) : Expr :=
  parse s.toList

theorem parseWithin_eq_parse {depth : Nat} {s : List Char} (h : s.length < depth) :
    parseWithin depth s = parse s := by
  suffices hany : ∀ left right (s : List Char), s.length < left → s.length < right →
      parseWithin left s = parseWithin right s from hany _ _ s h (Nat.lt_succ_self _)
  intro left
  induction left with
  | zero => simp
  | succ left ih =>
    intro right s hleft hright
    cases right with
    | zero => simp at hright
    | succ right =>
      simp only [parseWithin]
      split
      · rename_i function arguments hcall
        congr 1
        apply List.map_congr_left
        intro argument hmem
        have hshort := length_lt_of_mem_call? hcall hmem
        have htrim := trim_length_le s
        exact ih right argument (by omega) (by omega)
      · rfl

theorem parse_eq_call {s function : List Char} {arguments : List (List Char)}
    (h : call? (trim s) = some (function, arguments)) :
    parse s = .call (String.ofList (lower function)) (arguments.map parse) := by
  rw [parse, parseWithin, h]
  simp only
  congr 1
  apply List.map_congr_left
  intro argument hmem
  have hshort := length_lt_of_mem_call? h hmem
  have htrim := trim_length_le s
  exact parseWithin_eq_parse (by omega)

theorem parse_eq_atom {s : List Char} (h : call? (trim s) = none) :
    parse s = ofAtom (trim s) := by
  rw [parse, parseWithin, h]

end TimeRollup.Expr
