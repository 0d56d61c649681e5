/-!
# 64-bit signed integers

They are read from a decimal integer with an optional sign.  A digit that cannot be read is reported
where it stands, so of two faults the one further left is the one named.
-/

namespace TimeRollup.Text

def int64Min : Int := -9223372036854775808

def int64Max : Int := 9223372036854775807

inductive IntegerFault where
  | empty
  | invalidDigit
  | tooLarge
  | tooSmall
  deriving DecidableEq, Repr

def IntegerFault.message : IntegerFault → String
  | .empty => "cannot parse integer from empty string"
  | .invalidDigit => "invalid digit found in string"
  | .tooLarge => "number too large to fit in target type"
  | .tooSmall => "number too small to fit in target type"

/-- Writes the decimal digit `c` behind a number of the given sign. -/
def appendDigit (negative : Bool) (value : Int) (c : Char) : Int :=
  if negative then value * 10 - (c.toNat - '0'.toNat : Nat)
  else value * 10 + (c.toNat - '0'.toNat : Nat)

/-- Appends decimal digits to `value` while it stays within 64 bits. -/
def readDigits (negative : Bool) (value : Int) : List Char → Except IntegerFault Int
  | [] => .ok value
  | c :: rest =>
    if !c.isDigit then .error .invalidDigit
    else if appendDigit negative value c < int64Min then .error .tooSmall
    else if int64Max < appendDigit negative value c then .error .tooLarge
    else readDigits negative (appendDigit negative value c) rest

def readInt64 : List Char → Except IntegerFault Int
  | [] => .error .empty
  | [c] => readDigits false 0 [c]
  | '+' :: digits => readDigits false 0 digits
  | '-' :: digits => readDigits true 0 digits
  | digits => readDigits false 0 digits

/-- The product, if it fits in 64 bits. -/
def mulInt64? (left right : Int) : Option Int :=
  if int64Min ≤ left * right ∧ left * right ≤ int64Max then some (left * right) else none

/-- The nearest 64-bit integer. -/
def clampInt64 (value : Int) : Int :=
  if value < int64Min then int64Min else if int64Max < value then int64Max else value

end TimeRollup.Text
