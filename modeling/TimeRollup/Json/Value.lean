/-!
# JSON values

The values that reports are made of, and their texts.  Each entry of a list or object stands on a line of
its own, indented by two spaces for every list or object around it.
-/

namespace TimeRollup.Json

inductive Value where
  | null
  | text (content : String)
  | list (values : List Value)
  /-- The fields are written in the order in which they stand. -/
  | object (fields : List (String × Value))
  deriving Inhabited, Repr

/-- A character of a text between double quotes.  Only quotes, backslashes and the control characters
of ASCII cannot stand there as they are. -/
def escape : Char → List Char
  | '"' => ['\\', '"']
  | '\\' => ['\\', '\\']
  | '\x08' => ['\\', 'b']
  | '\t' => ['\\', 't']
  | '\n' => ['\\', 'n']
  | '\x0c' => ['\\', 'f']
  | '\r' => ['\\', 'r']
  | c =>
    if c.toNat < 0x20 then
      ['\\', 'u', '0', '0', Nat.digitChar (c.toNat / 16), Nat.digitChar (c.toNat % 16)]
    else [c]

def quote (content : String) : List Char :=
  '"' :: content.toList.flatMap escape ++ ['"']

def newLine (depth : Nat) : List Char :=
  '\n' :: List.replicate (2 * depth) ' '

mutual

/-- The value as it stands inside of `depth` lists and objects. -/
def Value.render (depth : Nat) : Value → List Char
  | .null => ['n', 'u', 'l', 'l']
  | .text content => quote content
  | .list [] => ['[', ']']
  | .list (value :: values) =>
    '[' :: newLine (depth + 1) ++ value.render (depth + 1) ++
      renderMoreValues (depth + 1) values ++ newLine depth ++ [']']
  | .object [] => ['\x7b', '\x7d']
  | .object ((name, value) :: fields) =>
    '\x7b' :: newLine (depth + 1) ++ quote name ++ [':', ' '] ++ value.render (depth + 1) ++
      renderMoreFields (depth + 1) fields ++ newLine depth ++ ['\x7d']

def renderMoreValues (depth : Nat) : List Value → List Char
  | [] => []
  | value :: values =>
    ',' :: newLine depth ++ value.render depth ++ renderMoreValues depth values

def renderMoreFields (depth : Nat) : List (String × Value) → List Char
  | [] => []
  | (name, value) :: fields =>
    ',' :: newLine depth ++ quote name ++ [':', ' '] ++ value.render depth ++
      renderMoreFields depth fields

end

namespace Value

def pretty (value : Value) : String :=
  String.ofList (value.render 0)

def ofTexts (contents : List String) : Value :=
  .list (contents.map .text)

def ofOption {α : Type} (value : α → Value) : Option α → Value
  | none => .null
  | some content => value content

end Value

end TimeRollup.Json
