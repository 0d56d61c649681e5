import TimeRollup.Text.CodePoints

/-!
# Blank characters

The characters with the property White_Space, and the operations that only look at them: cutting them off
both ends, splitting a text into its words, and joining words with single spaces.  A text of lines has a
line feed behind every line.
-/

namespace TimeRollup.Text

def blankRanges : List (Nat × Nat) :=
  [(0x0009, 0x000D), (0x0020, 0x0020), (0x0085, 0x0085), (0x00A0, 0x00A0), (0x1680, 0x1680),
   (0x2000, 0x200A), (0x2028, 0x2029), (0x202F, 0x202F), (0x205F, 0x205F), (0x3000, 0x3000)]

def isBlank (c : Char) : Bool :=
  inRanges blankRanges c

def trimStart (s : List Char) : List Char :=
  s.dropWhile isBlank

def trimEnd (s : List Char) : List Char :=
  (s.reverse.dropWhile isBlank).reverse

def trim (s : List Char) : List Char :=
  trimEnd (trimStart s)

/-- The text without the blank characters around it. -/
def trimmed (s : String) : String :=
  String.ofList (trim s.toList)

/-- Only blank characters, if any. -/
def isBlankText (s : String) : Bool :=
  s.toList.all isBlank

def pushWord (word : List Char) (rest : List (List Char)) : List (List Char) :=
  if word.isEmpty then rest else word :: rest

/-- The text up to the first blank character, and the words after it. -/
def splitWord : List Char → List Char × List (List Char)
  | [] => ([], [])
  | c :: rest =>
    let (word, later) := splitWord rest
    if isBlank c then ([], pushWord word later) else (c :: word, later)

/-- The maximal runs of characters that are not blank. -/
def words (s : List Char) : List (List Char) :=
  let (word, later) := splitWord s
  pushWord word later

def joinWords (words : List (List Char)) : List Char :=
  [' '].intercalate words

def unlines (lines : List String) : String :=
  String.join (lines.map (· ++ "\n"))

theorem trim_length_le (s : List Char) : (trim s).length ≤ s.length := by
  calc (trim s).length = ((trimStart s).reverse.dropWhile isBlank).length := List.length_reverse
    _ ≤ (trimStart s).reverse.length := (List.dropWhile_sublist isBlank).length_le
    _ = (trimStart s).length := List.length_reverse
    _ ≤ s.length := (List.dropWhile_sublist isBlank).length_le

theorem trimStart_eq_of_head {c : Char} {rest : List Char} (h : isBlank c = false) :
    trimStart (c :: rest) = c :: rest := by
  simp [trimStart, h]

end TimeRollup.Text
