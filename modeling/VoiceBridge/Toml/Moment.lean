import VoiceBridge.Toml.Blank

/-!
# Dates and times of a document

A date, a time of day, or both with an offset from universal time. Only their form and their range
are looked at.
-/

namespace VoiceBridge.Toml

/-- A number of exactly `width` digits between two bounds. -/
def field? (width low high : Nat) : Reader Nat := fun s =>
  let digits := s.take width
  let n := digits.foldl (fun acc c => 10 * acc + (c.toNat - '0'.toNat)) 0
  if digits.length = width ∧ digits.all Char.isDigit ∧ low ≤ n ∧ n ≤ high then
    some (n, s.drop width)
  else none

/-- The rest behind a character. -/
def skip? (c : Char) : List Char → Option (List Char)
  | d :: rest => if d = c then some rest else none
  | [] => none

def isLeapYear (year : Nat) : Bool := year % 4 == 0 && (year % 100 != 0 || year % 400 == 0)

/-- The number of days of a month. -/
def monthLength (year month : Nat) : Nat :=
  if month = 2 then if isLeapYear year then 29 else 28
  else if month = 4 ∨ month = 6 ∨ month = 9 ∨ month = 11 then 30
  else 31

/-- The rest behind a date. -/
def date? (s : List Char) : Option (List Char) := do
  let (year, s) ← field? 4 0 9999 s
  let (month, s) ← field? 2 1 12 (← skip? '-' s)
  let (_, s) ← field? 2 1 (monthLength year month) (← skip? '-' s)
  return s

/-- The rest behind a fraction of a second, if there is one. -/
def skipFraction (s : List Char) : List Char :=
  match s with
  | '.' :: c :: rest => if c.isDigit then rest.dropWhile Char.isDigit else s
  | _ => s

/-- The rest behind a time of day. A leap second has the number 60. -/
def clock? (s : List Char) : Option (List Char) := do
  let (_, s) ← field? 2 0 23 s
  let (_, s) ← field? 2 0 59 (← skip? ':' s)
  let (_, s) ← field? 2 0 60 (← skip? ':' s)
  return skipFraction s

/-- The rest behind a number of hours and minutes. -/
def hoursMinutes? (s : List Char) : Option (List Char) := do
  let (_, s) ← field? 2 0 23 s
  let (_, s) ← field? 2 0 59 (← skip? ':' s)
  return s

/-- The rest behind an offset, if there is one. -/
def skipOffset (s : List Char) : List Char :=
  match s with
  | c :: rest =>
    if c = 'Z' ∨ c = 'z' then rest
    else if c = '+' ∨ c = '-' then (hoursMinutes? rest).getD s
    else s
  | [] => []

/-- The rest behind a time of day that belongs to a date, if there is one. -/
def skipClock (s : List Char) : List Char :=
  match s with
  | c :: rest =>
    if c = 'T' ∨ c = 't' ∨ c = ' ' then ((clock? rest).map skipOffset).getD s else s
  | [] => []

/-- The rest behind a date or a time. -/
def moment? (s : List Char) : Option (List Char) := ((date? s).map skipClock).or (clock? s)

end VoiceBridge.Toml
