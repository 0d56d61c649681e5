import TimeRollup.Toml.Scalar
import TimeRollup.Toml.Table

/-!
# Reading TOML documents

A document is a list of lines: settings, headers of tables and of tables in arrays, comments, and empty
lines.  A setting belongs to the table of the last header before it.
-/

namespace TimeRollup.Toml

/-! ## Arrays and inline tables -/

/-- Reads the values of an array of at most the given length behind its opening bracket. -/
def takeArray? (takeValue? : List Char → Option (Value × List Char)) :
    Nat → List Char → Option (List Value × List Char)
  | 0, _ => none
  | bound + 1, s =>
    match skipLines false s with
    | ']' :: rest => some ([], rest)
    | s => do
      let (value, rest) ← takeValue? s
      match skipLines false rest with
      | ',' :: rest =>
        let (values, rest) ← takeArray? takeValue? bound rest
        return (value :: values, rest)
      | ']' :: rest => return ([value], rest)
      | _ => none

/-- Reads a key, the sign behind it and a value. -/
def takeSetting? (takeValue? : List Char → Option (Value × List Char)) (s : List Char) :
    Option (Setting × List Char) := do
  let (parts, rest) ← takeKey? s
  match rest with
  | '=' :: rest =>
    let (value, rest) ← takeValue? (skipBlank rest)
    return (← Setting.ofKey? parts value, rest)
  | _ => none

/-- Reads the settings of an inline table, of which there is at least one. -/
def takeSettings? (takeValue? : List Char → Option (Value × List Char)) :
    Nat → List Char → Option (List Setting × List Char)
  | 0, _ => none
  | bound + 1, s => do
    let (setting, rest) ← takeSetting? takeValue? s
    match skipBlank rest with
    | ',' :: rest =>
      let (settings, rest) ← takeSettings? takeValue? bound rest
      return (setting :: settings, rest)
    | '\x7d' :: rest => return ([setting], rest)
    | _ => none

def takeInlineTable? (takeValue? : List Char → Option (Value × List Char)) (s : List Char) :
    Option (Value × List Char) :=
  match skipBlank s with
  | '\x7d' :: rest => some (.table [], rest)
  | s => do
    let (settings, rest) ← takeSettings? takeValue? (s.length + 1) s
    let entries ← insertSettings settings []
    return (.table (entriesToValues entries), rest)

/-- Reads a value with arrays and inline tables inside each other down to the given depth. -/
def takeValueWithin? : Nat → List Char → Option (Value × List Char)
  | 0, s => takeScalar? s
  | depth + 1, s =>
    match s with
    | '[' :: rest =>
      (takeArray? (takeValueWithin? depth) (rest.length + 1) rest).map fun (values, rest) =>
        (.array values, rest)
    | '\x7b' :: rest => takeInlineTable? (takeValueWithin? depth) rest
    | s => takeScalar? s

/-- Arrays and inline tables are nested less deep than this. -/
def depthLimit : Nat := 80

def takeValue? (s : List Char) : Option (Value × List Char) :=
  takeValueWithin? (depthLimit - 1) s

/-! ## Lines -/

structure Header where
  inArray : Bool
  path : List String
  key : String

inductive Line where
  | setting (setting : Setting)
  | header (header : Header)

def Header.ofKey? (inArray : Bool) (parts : List String) : Option Header :=
  parts.getLast?.map fun key => ⟨inArray, parts.dropLast, key⟩

/-- Reads a header behind its first bracket. -/
def takeHeader? (s : List Char) : Option (Header × List Char) :=
  match s with
  | '[' :: rest => do
    let (parts, rest) ← takeKey? rest
    match rest with
    | ']' :: ']' :: rest => return (← Header.ofKey? true parts, rest)
    | _ => none
  | s => do
    let (parts, rest) ← takeKey? s
    match rest with
    | ']' :: rest => return (← Header.ofKey? false parts, rest)
    | _ => none

/-- Reads a document of at most the given number of lines. -/
def takeLines? : Nat → List Char → Option (List Line)
  | 0, _ => none
  | bound + 1, s =>
    match skipBlank s with
    | [] => some []
    | '#' :: rest => do takeLines? bound (← takeLineEnd? ('#' :: rest))
    | '\n' :: rest => takeLines? bound rest
    | '\r' :: rest => do takeLines? bound (← takeNewline? ('\r' :: rest))
    | '[' :: rest => do
      let (header, rest) ← takeHeader? rest
      let lines ← takeLines? bound (← takeLineEnd? rest)
      return .header header :: lines
    | s => do
      let (setting, rest) ← takeSetting? takeValue? s
      let lines ← takeLines? bound (← takeLineEnd? rest)
      return .setting setting :: lines

/-- The settings before the first header, and each header with the settings under it. -/
def sections : List Line → List Setting × List (Header × List Setting)
  | [] => ([], [])
  | .setting setting :: lines =>
    let (settings, later) := sections lines
    (setting :: settings, later)
  | .header header :: lines =>
    let (settings, later) := sections lines
    ([], (header, settings) :: later)

/-- Reads a document, perhaps behind a byte order mark, as a table. -/
def parse? (text : String) : Option Value := do
  let s :=
    match text.toList with
    | '\ufeff' :: rest => rest
    | s => s
  let (settings, later) := sections (← takeLines? (s.length + 1) s)
  let root ← insertSettings settings []
  let root ← later.foldlM (fun root (header, settings) =>
    insertTable header.inArray (insertSettings settings) header.key header.path root) root
  return .table (entriesToValues root)

end TimeRollup.Toml
