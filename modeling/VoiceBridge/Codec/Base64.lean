import VoiceBridge.Text.Bytes

/-!
# Base64

The standard alphabet with padding. `encode` writes every three bytes as four characters and pads
the last group; `decode` reads exactly such texts back.
-/

namespace VoiceBridge.Base64

/-- The character for a value below 64. -/
def letter (n : Nat) : Char :=
  if n < 26 then Char.ofNat ('A'.toNat + n)
  else if n < 52 then Char.ofNat ('a'.toNat + (n - 26))
  else if n < 62 then Char.ofNat ('0'.toNat + (n - 52))
  else if n = 62 then '+' else '/'

/-- The value that a character of the alphabet stands for. -/
def value? (c : Char) : Option Nat :=
  if 'A' ≤ c ∧ c ≤ 'Z' then some (c.toNat - 'A'.toNat)
  else if 'a' ≤ c ∧ c ≤ 'z' then some (c.toNat - 'a'.toNat + 26)
  else if '0' ≤ c ∧ c ≤ '9' then some (c.toNat - '0'.toNat + 52)
  else if c = '+' then some 62
  else if c = '/' then some 63
  else none

/-- Three bytes at a time, then one or two with padding. -/
def encodeChars : Bytes → List Char
  | [] => []
  | [a] =>
    let n := a.toNat * 16
    [letter (n / 64), letter (n % 64), '=', '=']
  | [a, b] =>
    let n := (a.toNat * 256 + b.toNat) * 4
    [letter (n / 4096), letter (n / 64 % 64), letter (n % 64), '=']
  | a :: b :: c :: rest =>
    let n := (a.toNat * 256 + b.toNat) * 256 + c.toNat
    letter (n / 262144) :: letter (n / 4096 % 64) :: letter (n / 64 % 64) :: letter (n % 64)
      :: encodeChars rest

/-- The padded base64 text of a byte list. -/
def encode (bytes : Bytes) : String := String.ofList (encodeChars bytes)

/-- Read four characters at a time; padding may stand only at the very end and its spare bits have
to be zero. -/
def decodeChars : List Char → Option Bytes
  | [] => some []
  | [c1, c2, '=', '='] => do
    let n := (← value? c1) * 64 + (← value? c2)
    if n % 16 = 0 then some [UInt8.ofNat (n / 16)] else none
  | [c1, c2, c3, '='] => do
    let n := ((← value? c1) * 64 + (← value? c2)) * 64 + (← value? c3)
    if n % 4 = 0 then some [UInt8.ofNat (n / 1024), UInt8.ofNat (n / 4 % 256)] else none
  | c1 :: c2 :: c3 :: c4 :: rest => do
    let n := (((← value? c1) * 64 + (← value? c2)) * 64 + (← value? c3)) * 64 + (← value? c4)
    let tail ← decodeChars rest
    some (UInt8.ofNat (n / 65536) :: UInt8.ofNat (n / 256 % 256) :: UInt8.ofNat (n % 256) :: tail)
  | _ => none

/-- The bytes that a padded base64 text stands for. -/
def decode (s : String) : Option Bytes := decodeChars s.toList

end VoiceBridge.Base64
