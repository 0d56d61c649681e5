import TimeRollup.Text.CaseTable

/-!
# Lower-casing

The full lower-case mapping of the Unicode standard.  Each character is mapped on its own, with two
exceptions: the dotted capital I becomes two characters, and a capital sigma takes its final form at
the end of a word, which is told from the cased letters around it.
-/

namespace TimeRollup.Text

def isCased (c : Char) : Bool :=
  inRanges casedRanges c

def isCaseIgnorable (c : Char) : Bool :=
  inRanges ignorableRanges c

/-- The nearest character that is not case-ignorable is a cased letter. -/
def meetsCased (s : List Char) : Bool :=
  ((s.dropWhile isCaseIgnorable).head?.map isCased).getD false

/-- The lower-case form of a character that stands alone. -/
def lowerChar (c : Char) : List Char :=
  if c.toNat < 0x80 then [c.toLower]
  else if c = 'İ' then ['i', '\u0307']
  else
    match lowercaseRuns.find? (·.contains c.toNat) with
    | some run => [Char.ofNat (c.toNat + run.shift).toNat]
    | none => [c]

/-- Lower-cases a text that follows the reversed text `before`. -/
def lowerAfter (before : List Char) : List Char → List Char
  | [] => []
  | c :: rest =>
    (if c = 'Σ' then
      [if meetsCased before && !meetsCased rest then 'ς' else 'σ']
    else lowerChar c) ++ lowerAfter (c :: before) rest

def lower (s : List Char) : List Char :=
  lowerAfter [] s

def lowercase (s : String) : String :=
  String.ofList (lower s.toList)

/-- The two texts differ at most in the case of ASCII letters. -/
def eqIgnoringCase (left right : List Char) : Bool :=
  left.map Char.toLower == right.map Char.toLower

theorem lowerAfter_eq_map (before s : List Char) (ascii : ∀ c ∈ s, c.toNat < 0x80) :
    lowerAfter before s = s.map Char.toLower := by
  induction s generalizing before with
  | nil => rfl
  | cons c rest ih =>
    have hc := ascii c List.mem_cons_self
    have hsigma : c ≠ 'Σ' := by
      rintro rfl
      exact absurd hc (by decide)
    simp [lowerAfter, hsigma, lowerChar, hc,
      ih (c :: before) fun d hd => ascii d (List.mem_cons_of_mem c hd)]

/-- On ASCII texts the mapping is that of the Latin alphabet. -/
theorem lower_eq_map (s : List Char) (ascii : ∀ c ∈ s, c.toNat < 0x80) :
    lower s = s.map Char.toLower :=
  lowerAfter_eq_map [] s ascii

end TimeRollup.Text
