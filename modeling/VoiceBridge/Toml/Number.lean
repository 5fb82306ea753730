import VoiceBridge.Config.Value
import VoiceBridge.Toml.Text

/-!
# Numbers of a document

Single underscores may stand between digits. A whole number has 64 bits and a sign; in base 2, 8 or
16 it has a mark in front and no sign. A number with a fraction or an exponent must not be too large
for the doubles, but may lie as far below zero as it likes.
-/

namespace VoiceBridge.Toml

/-- Digits, without the underscores between them, and the rest. -/
def digitsFrom (isDigit : Char → Bool) (underscore : Bool) : List Char → List Char × List Char
  | [] => ([], [])
  | c :: rest =>
    if isDigit c then
      let (digits, rest) := digitsFrom isDigit true rest
      (c :: digits, rest)
    else if underscore && c == '_' && rest.head?.any isDigit then digitsFrom isDigit false rest
    else ([], c :: rest)

/-- One or more digits. -/
def digits? (isDigit : Char → Bool) : Reader (List Char) := fun s =>
  match digitsFrom isDigit false s with
  | ([], _) => none
  | found => some found

/-- The number that digits denote. -/
def ofDigits (base : Nat) (digits : List Char) : Nat :=
  digits.foldl (fun acc c => base * acc + (hexDigit? c).getD 0) 0

/-- A sign, which may be missing: whether it is a minus, and the rest. -/
def sign : List Char → Bool × List Char
  | '-' :: rest => (true, rest)
  | '+' :: rest => (false, rest)
  | s => (false, s)

/-- The digits of a whole number, which does not begin with a zero unless it is one. -/
def whole? : Reader (List Char)
  | '0' :: rest => some (['0'], rest)
  | s => digits? Char.isDigit s

/-- A whole number, if it has no more than 64 bits. -/
def ofWhole? (negative : Bool) (n : Nat) : Option Value :=
  if negative then if n ≤ Nat.pow 2 63 then some (.int (-(Int.ofNat n))) else none
  else if n < Nat.pow 2 63 then some (.int (Int.ofNat n)) else none

/-- A whole number in a base other than ten, behind its mark. -/
def based? (base : Nat) : Reader Value := fun s => do
  let (digits, s) ← digits? (fun c => (hexDigit? c).any (· < base)) s
  return (← ofWhole? false (ofDigits base digits), s)

/-- The least number that is rounded to infinity. -/
def tooLarge : Nat := Nat.pow 2 1024 - Nat.pow 2 970

/-- Whether a decimal number is at least `tooLarge`. Its number of digits settles most cases. -/
def isTooLarge (digits : List Char) (exponent : Int) : Bool :=
  let digits := digits.dropWhile (· == '0')
  let n := ofDigits 10 digits
  let places := Int.ofNat digits.length + exponent
  if digits.isEmpty || places < 300 then false
  else if 320 < places then true
  else if 0 ≤ exponent then tooLarge ≤ n * Nat.pow 10 exponent.toNat
  else tooLarge * Nat.pow 10 (-exponent).toNat ≤ n

/-- A fraction, which may be missing: its digits. -/
def fraction : List Char → List Char × List Char
  | '.' :: rest => (digits? Char.isDigit rest).getD ([], '.' :: rest)
  | s => ([], s)

/-- An exponent. -/
def exponent? : Reader Int
  | c :: rest =>
    if c = 'e' ∨ c = 'E' then do
      let (negative, s) := sign rest
      let (digits, s) ← digits? Char.isDigit s
      let n := Int.ofNat (ofDigits 10 digits)
      return (if negative then -n else n, s)
    else none
  | [] => none

/-- Infinity or no number at all. -/
def special? : List Char → Option (List Char)
  | 'i' :: 'n' :: 'f' :: rest => some rest
  | 'n' :: 'a' :: 'n' :: rest => some rest
  | _ => none

/-- A decimal number, of which `source` is the writing. -/
def decimal? : Reader Value := fun source => do
  let (negative, s) := sign source
  let (whole, s) ← whole? s
  let (places, s) := fraction s
  let power := exponent? s
  if places.isEmpty && power.isNone then return (← ofWhole? negative (ofDigits 10 whole), s)
  let (exponent, s) := power.getD (0, s)
  if !negative && isTooLarge (whole ++ places) (exponent - Int.ofNat places.length) then none
  else return (.real (String.ofList (source.take (source.length - s.length))), s)

/-- A number. -/
def number? : Reader Value := fun s =>
  match special? (sign s).2 with
  | some rest => some (.real (String.ofList (s.take (s.length - rest.length))), rest)
  | none =>
    match s with
    | '0' :: 'x' :: rest => based? 16 rest
    | '0' :: 'o' :: rest => based? 8 rest
    | '0' :: 'b' :: rest => based? 2 rest
    | s => decimal? s

end VoiceBridge.Toml
