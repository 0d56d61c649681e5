import TimeRollup.Calendar.Instant

/-!
# Reading timestamps

A timestamp of RFC 3339 has a date, a time of day and the offset of that time from universal time.  The
second 60 is the leap second of its minute.  `ofLiteral?` reads the timestamps that statements hold,
which are in universal time and may lie in years of more than four digits.
-/

namespace TimeRollup.Calendar

/-- Reads exactly `count` digits. -/
def takeNumber? (count : Nat) (s : List Char) : Option (Nat × List Char) :=
  let digits := s.take count
  if digits.length = count ∧ digits.all Char.isDigit then
    some (digits.foldl (fun value c => value * 10 + (c.toNat - '0'.toNat)) 0, s.drop count)
  else none

def takeChar? (c : Char) : List Char → Option (List Char)
  | [] => none
  | d :: rest => if d = c then some rest else none

def takeDateAfterYear? (year : Int) (s : List Char) : Option (Date × List Char) := do
  let s ← takeChar? '-' s
  let (month, s) ← takeNumber? 2 s
  let s ← takeChar? '-' s
  let (day, s) ← takeNumber? 2 s
  let date : Date := ⟨year, month, day⟩
  if date.isValid then some (date, s) else none

/-- Reads a time of day without parts of a second, as a second of the day and leap nanoseconds. -/
def takeClock? (s : List Char) : Option (Nat × Nat × List Char) := do
  let (hour, s) ← takeNumber? 2 s
  let s ← takeChar? ':' s
  let (minute, s) ← takeNumber? 2 s
  let s ← takeChar? ':' s
  let (second, s) ← takeNumber? 2 s
  if 23 < hour ∨ 59 < minute ∨ 60 < second then none
  else if second = 60 then some (hour * 3600 + minute * 60 + 59, nanosPerSecond, s)
  else some (hour * 3600 + minute * 60 + second, 0, s)

/-- Reads the part of a second, if there is one.  Digits behind the ninth do not count. -/
def takeFraction? : List Char → Option (Nat × List Char)
  | '.' :: rest =>
    let digits := (rest.takeWhile Char.isDigit).take 9
    if digits.isEmpty then none
    else
      let value := digits.foldl (fun value c => value * 10 + (c.toNat - '0'.toNat)) 0
      some (value * Nat.pow 10 (9 - digits.length), rest.dropWhile Char.isDigit)
  | s => some (0, s)

/-- Reads an offset from universal time, in seconds. -/
def takeOffset? (s : List Char) : Option (Int × List Char) :=
  let clock (s : List Char) : Option (Int × List Char) := do
    let (hours, s) ← takeNumber? 2 s
    let s ← takeChar? ':' s
    let (minutes, s) ← takeNumber? 2 s
    if 23 < hours ∨ 59 < minutes then none else some ((hours * 3600 + minutes * 60 : Nat), s)
  match s with
  | 'Z' :: rest | 'z' :: rest => some (0, rest)
  | '+' :: rest => clock rest
  | '-' :: rest | '\u2212' :: rest => (clock rest).map fun (offset, s) => (-offset, s)
  | _ => none

namespace Instant

def ofParts (date : Date) (secondOfDay : Nat) (nanos : Nat) (offset : Int) : Instant :=
  ⟨date.toDays * secondsPerDay + secondOfDay - offset, nanos⟩

/-- Reads a timestamp of RFC 3339. -/
def ofRfc3339? (s : String) : Option Instant := do
  let (year, s) ← takeNumber? 4 s.toList
  let (date, s) ← takeDateAfterYear? year s
  let s ←
    match s with
    | 'T' :: rest | 't' :: rest | ' ' :: rest => some rest
    | _ => none
  let (second, leap, s) ← takeClock? s
  let (nanos, s) ← takeFraction? s
  let (offset, s) ← takeOffset? s
  if s.isEmpty then some (ofParts date second (leap + nanos) offset) else none

/-- Reads a year of four digits, or of at least four digits behind a sign. -/
def takeYear? (s : List Char) : Option (Int × List Char) :=
  let signed (s : List Char) : Option (Nat × List Char) :=
    takeNumber? (max 4 (s.takeWhile Char.isDigit).length) s
  match s with
  | '+' :: rest => (signed rest).map fun (year, s) => (year, s)
  | '-' :: rest => (signed rest).map fun (year, s) => (-year, s)
  | s => (takeNumber? 4 s).map fun (year, s) => (year, s)

/-- Reads a timestamp as `secondsText` writes it. -/
def ofLiteral? (s : List Char) : Option Instant := do
  let (year, s) ← takeYear? s
  let (date, s) ← takeDateAfterYear? year s
  let s ← takeChar? 'T' s
  let (second, leap, s) ← takeClock? s
  let s ← takeChar? 'Z' s
  if s.isEmpty then some (ofParts date second leap 0) else none

end Instant

end TimeRollup.Calendar
