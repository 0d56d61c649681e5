/-!
# Texts and keys of TOML documents

Texts stand between double quotes, with escapes, or between single quotes, without.  Three quotes enclose
texts of several lines, in which up to two quotes in a row stand for themselves.  Keys are names of
ASCII letters, digits, dashes and underscores, or texts of one line, with dots between them.
-/

namespace TimeRollup.Toml

def isBlank (c : Char) : Bool :=
  c == ' ' || c == '\t'

def skipBlank (s : List Char) : List Char :=
  s.dropWhile isBlank

/-- The characters of comments and of texts of one line. -/
def isPrintable (c : Char) : Bool :=
  c == '\t' || (0x20 ≤ c.toNat && c.toNat != 0x7F)

def takeNewline? : List Char → Option (List Char)
  | '\n' :: rest => some rest
  | '\r' :: '\n' :: rest => some rest
  | _ => none

/-- Passes a line break, if there is one. -/
def skipNewline (s : List Char) : List Char :=
  (takeNewline? s).getD s

/-- Passes blanks and a comment up to the end of the line or document. -/
def takeLineEnd? (s : List Char) : Option (List Char) :=
  let rest :=
    match skipBlank s with
    | '#' :: comment => comment.dropWhile isPrintable
    | s => s
  if rest.isEmpty then some [] else takeNewline? rest

/-- Passes blanks, line breaks and comments. -/
def skipLines (comment : Bool) : List Char → List Char
  | [] => []
  | '\n' :: rest => skipLines false rest
  | '\r' :: '\n' :: rest => skipLines false rest
  | c :: rest =>
    if comment then if isPrintable c then skipLines true rest else c :: rest
    else if isBlank c then skipLines false rest
    else if c == '#' then skipLines true rest
    else c :: rest

/-! ## Escapes -/

def hexDigit? (c : Char) : Option Nat :=
  if c.isDigit then some (c.toNat - '0'.toNat)
  else if 'a' ≤ c ∧ c ≤ 'f' then some (c.toNat - 'a'.toNat + 10)
  else if 'A' ≤ c ∧ c ≤ 'F' then some (c.toNat - 'A'.toNat + 10)
  else none

/-- The character of a code point, unless it is a surrogate or none at all. -/
def charOfHex? (digits : List Char) : Option Char := do
  let values ← digits.mapM hexDigit?
  let code := values.foldl (fun code value => code * 16 + value) 0
  if code < 0xD800 ∨ 0xDFFF < code ∧ code < 0x110000 then some (Char.ofNat code) else none

def takeHex? (count : Nat) (s : List Char) : Option (Char × List Char) := do
  let digits := s.take count
  if digits.length = count then return (← charOfHex? digits, s.drop count) else none

/-- Reads an escape behind its backslash. -/
def takeEscape? : List Char → Option (Char × List Char)
  | 'b' :: rest => some ('\x08', rest)
  | 't' :: rest => some ('\t', rest)
  | 'n' :: rest => some ('\n', rest)
  | 'f' :: rest => some ('\x0c', rest)
  | 'r' :: rest => some ('\r', rest)
  | '"' :: rest => some ('"', rest)
  | '\\' :: rest => some ('\\', rest)
  | 'u' :: rest => takeHex? 4 rest
  | 'U' :: rest => takeHex? 8 rest
  | _ => none

/-! ## Texts of one line -/

/-- Reads a text of at most the given length behind its opening quote. -/
def takeBasicText? : Nat → List Char → Option (List Char × List Char)
  | 0, _ => none
  | _, [] => none
  | bound + 1, c :: rest =>
    if c == '"' then some ([], rest)
    else if c == '\\' then do
      let (escaped, rest) ← takeEscape? rest
      let (more, rest) ← takeBasicText? bound rest
      return (escaped :: more, rest)
    else if isPrintable c then do
      let (more, rest) ← takeBasicText? bound rest
      return (c :: more, rest)
    else none

def takeLiteralText? (s : List Char) : Option (List Char × List Char) :=
  match s.dropWhile fun c => isPrintable c && c != '\'' with
  | '\'' :: rest => some (s.takeWhile fun c => isPrintable c && c != '\'', rest)
  | _ => none

/-! ## Texts of several lines -/

/-- Reads a run of quotes.  Three or more end the text, and up to two more before them belong to it. -/
def takeQuotes (quote : Char) (s : List Char) : List Char × Bool × List Char :=
  let count := (s.takeWhile (· == quote)).length
  if count < 3 then (List.replicate count quote, false, s.drop count)
  else
    let kept := min (count - 3) 2
    (List.replicate kept quote, true, s.drop (kept + 3))

/-- Passes blanks and line breaks behind a backslash, if a line ends there. -/
def takeJoin? (s : List Char) : Option (List Char) := do
  let rest ← takeNewline? (skipBlank s)
  some (skipBreaks rest)
where
  skipBreaks : List Char → List Char
    | [] => []
    | '\n' :: rest => skipBreaks rest
    | '\r' :: '\n' :: rest => skipBreaks rest
    | c :: rest => if isBlank c then skipBreaks rest else c :: rest

/-- Reads a text of several lines behind its opening quotes.  A line break is always a line feed. -/
def takeLongText? (quote : Char) (escapes : Bool) :
    Nat → List Char → Option (List Char × List Char)
  | 0, _ => none
  | _, [] => none
  | bound + 1, c :: rest =>
    if c == quote then
      match takeQuotes quote (c :: rest) with
      | (quotes, true, rest) => some (quotes, rest)
      | (quotes, false, rest) => do
        let (more, rest) ← takeLongText? quote escapes bound rest
        return (quotes ++ more, rest)
    else if escapes && c == '\\' then
      match takeJoin? rest with
      | some rest => takeLongText? quote escapes bound rest
      | none => do
        let (escaped, rest) ← takeEscape? rest
        let (more, rest) ← takeLongText? quote escapes bound rest
        return (escaped :: more, rest)
    else
      match takeNewline? (c :: rest) with
      | some rest => do
        let (more, rest) ← takeLongText? quote escapes bound rest
        return ('\n' :: more, rest)
      | none =>
        if isPrintable c then do
          let (more, rest) ← takeLongText? quote escapes bound rest
          return (c :: more, rest)
        else none

def takeText? : List Char → Option (List Char × List Char)
  | '"' :: '"' :: '"' :: rest =>
    takeLongText? '"' true (rest.length + 1) (skipNewline rest)
  | '\'' :: '\'' :: '\'' :: rest =>
    takeLongText? '\'' false (rest.length + 1) (skipNewline rest)
  | '"' :: rest => takeBasicText? (rest.length + 1) rest
  | '\'' :: rest => takeLiteralText? rest
  | _ => none

/-! ## Keys -/

def isBareKeyPart (c : Char) : Bool :=
  c.isAlphanum || c == '-' || c == '_'

def takeSimpleKey? : List Char → Option (List Char × List Char)
  | '"' :: rest => takeBasicText? (rest.length + 1) rest
  | '\'' :: rest => takeLiteralText? rest
  | s =>
    let key := s.takeWhile isBareKeyPart
    if key.isEmpty then none else some (key, s.dropWhile isBareKeyPart)

/-- Keys have fewer parts than this. -/
def keyLimit : Nat := 80

/-- Reads a key of at most the given number of parts, with the blanks around them. -/
def takeKeyWithin? : Nat → List Char → Option (List String × List Char)
  | 0, _ => none
  | bound + 1, s => do
    let (part, rest) ← takeSimpleKey? (skipBlank s)
    match skipBlank rest with
    | '.' :: rest =>
      let (parts, rest) ← takeKeyWithin? bound rest
      return (String.ofList part :: parts, rest)
    | rest => return ([String.ofList part], rest)

def takeKey? (s : List Char) : Option (List String × List Char) :=
  takeKeyWithin? (keyLimit - 1) s

end TimeRollup.Toml
