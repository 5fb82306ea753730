/-!
# Whole numbers in settings

A number is written as an optional plus sign and one or more ASCII digits, and has to lie below a
bound. Leading zeros are allowed.
-/

namespace VoiceBridge.Decimal

/-- The value of an ASCII digit. -/
def digit? (c : Char) : Option Nat :=
  if '0' ≤ c ∧ c ≤ '9' then some (c.toNat - '0'.toNat) else none

/-- The number that a row of digits continues `acc` to; `none` if a character is no digit. -/
def valueFrom (acc : Nat) : List Char → Option Nat
  | [] => some acc
  | c :: rest =>
    match digit? c with
    | some d => valueFrom (10 * acc + d) rest
    | none => none

/-- The number written by one or more digits. -/
def value? : List Char → Option Nat
  | [] => none
  | digits => valueFrom 0 digits

/-- A number below `bound`, with an optional plus sign. -/
def below? (bound : Nat) (s : List Char) : Option Nat :=
  let digits := match s with
    | '+' :: rest => rest
    | _ => s
  (value? digits).filter (· < bound)

end VoiceBridge.Decimal
