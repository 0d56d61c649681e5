import TimeRollup.Calendar.Rfc3339
import TimeRollup.Text.Integer
import TimeRollup.Toml.Text
import TimeRollup.Toml.Value

/-!
# Numbers, dates and truth values of TOML documents

Digits may have single underscores between them.  Integers have 64 bits, and positive decimal numbers
must be less than what rounds to infinity in double precision.  Dates and times must be ones that the
calendar has.
-/

namespace TimeRollup.Toml

open TimeRollup.Calendar

/-! ## Numbers -/

/-- Reads more digits. -/
def takeMoreDigits? (isDigit : Char → Bool) : List Char → Option (List Char × List Char)
  | [] => some ([], [])
  | ['_'] => none
  | '_' :: c :: rest =>
    if isDigit c then (takeMoreDigits? isDigit rest).map fun (digits, s) => (c :: digits, s)
    else none
  | c :: rest =>
    if isDigit c then (takeMoreDigits? isDigit rest).map fun (digits, s) => (c :: digits, s)
    else some ([], c :: rest)

def takeDigits? (isDigit : Char → Bool) : List Char → Option (List Char × List Char)
  | [] => none
  | c :: rest =>
    if isDigit c then (takeMoreDigits? isDigit rest).map fun (digits, s) => (c :: digits, s)
    else none

def takeSign : List Char → Bool × List Char
  | '-' :: rest => (true, rest)
  | '+' :: rest => (false, rest)
  | s => (false, s)

/-- Reads the digits of a decimal integer, of which a zero at the front is the only one. -/
def takeWhole? : List Char → Option (List Char × List Char)
  | '0' :: rest => some (['0'], rest)
  | s => takeDigits? Char.isDigit s

def natOfDigits (base : Nat) (digits : List Char) : Nat :=
  digits.foldl (fun value c => value * base + (hexDigit? c).getD 0) 0

def takeInteger? (s : List Char) : Option (List Char) :=
  let withBase (base : Nat) (isDigit : Char → Bool) (s : List Char) := do
    let (digits, rest) ← takeDigits? isDigit s
    if natOfDigits base digits ≤ Text.int64Max then some rest else none
  match s with
  | '0' :: 'x' :: rest => withBase 16 (fun c => (hexDigit? c).isSome) rest
  | '0' :: 'o' :: rest => withBase 8 (fun c => '0' ≤ c && c ≤ '7') rest
  | '0' :: 'b' :: rest => withBase 2 (fun c => c == '0' || c == '1') rest
  | s => do
    let (negative, s) := takeSign s
    let (digits, rest) ← takeWhole? s
    let value : Int := natOfDigits 10 digits
    if (if negative then -value else value) < Text.int64Min then none
    else if (if negative then -value else value) ≤ Text.int64Max then some rest
    else none

/-- Half a unit in the last place above the largest number of double precision. -/
def doubleBound : Nat := Nat.pow 2 1024 - Nat.pow 2 970

/-- The number `mantissa * 10 ^ exponent` rounds to infinity.  The count of digits before the point
decides, except near the bound. -/
def isTooLarge (mantissa : Nat) (exponent : Int) : Bool :=
  let whole := (Nat.toDigits 10 mantissa).length + exponent
  if mantissa = 0 ∨ whole < 309 then false
  else if 310 < whole then true
  else if 0 ≤ exponent then doubleBound ≤ mantissa * Nat.pow 10 exponent.toNat
  else doubleBound * Nat.pow 10 (-exponent).toNat ≤ mantissa

/-- Reads the power of ten behind the letter that announces it. -/
def takeExponent? (s : List Char) : Option (Int × List Char) := do
  let (negative, s) := takeSign s
  let (digits, rest) ← takeDigits? Char.isDigit s
  let value : Int := natOfDigits 10 digits
  return (if negative then -value else value, rest)

def takeDecimal? (s : List Char) : Option (List Char) := do
  let (negative, s) := takeSign s
  match s with
  | 'i' :: 'n' :: 'f' :: rest | 'n' :: 'a' :: 'n' :: rest => some rest
  | s =>
    let (whole, rest) ← takeWhole? s
    let (fraction, rest) ←
      match rest with
      | '.' :: rest => takeDigits? Char.isDigit rest
      | rest => some ([], rest)
    let (exponent, rest) ←
      match rest with
      | 'e' :: rest | 'E' :: rest => takeExponent? rest
      | rest => if fraction.isEmpty then none else some (0, rest)
    if !negative && isTooLarge (natOfDigits 10 (whole ++ fraction)) (exponent - fraction.length)
    then none else some rest

/-! ## Dates -/

/-- Passes a time of day with parts of a second. -/
def takeTime? (s : List Char) : Option (List Char) := do
  let (_, _, rest) ← takeClock? s
  let (_, rest) ← takeFraction? rest
  some rest

/-- Passes an offset from universal time, if there is one. -/
def skipOffset (s : List Char) : List Char :=
  match s with
  | '\u2212' :: _ => s
  | s =>
    match takeOffset? s with
    | some (_, rest) => rest
    | none => s

/-- Passes a time of day and an offset behind a date, if they are there. -/
def skipTime (s : List Char) : List Char :=
  match s with
  | c :: rest =>
    if c == 'T' || c == 't' || c == ' ' then
      match takeTime? rest with
      | some rest => skipOffset rest
      | none => s
    else s
  | [] => []

def takeDate? (s : List Char) : Option (List Char) := do
  let (year, rest) ← takeNumber? 4 s
  let (_, rest) ← takeDateAfterYear? year rest
  some (skipTime rest)

/-! ## Scalars -/

/-- Reads a text, number, date or truth value. -/
def takeScalar? (s : List Char) : Option (Value × List Char) :=
  match s with
  | '"' :: _ | '\'' :: _ => (takeText? s).map fun (text, rest) => (.text (String.ofList text), rest)
  | 't' :: 'r' :: 'u' :: 'e' :: rest => some (.boolean true, rest)
  | 'f' :: 'a' :: 'l' :: 's' :: 'e' :: rest => some (.boolean false, rest)
  | s =>
    match (takeDate? s).or (takeTime? s) with
    | some rest => some (.date, rest)
    | none => ((takeDecimal? s).or (takeInteger? s)).map (.number, ·)

end TimeRollup.Toml
