/-!
# Bytes and UTF-8

Payloads are lists of bytes. `utf8` writes a text as bytes and `ofUtf8?` reads it back; when a list
is not the UTF-8 form of any text, `Utf8Fault.find` says where the first bad sequence begins and
whether it was wrong or merely cut short.
-/

namespace VoiceBridge

/-- A payload, byte by byte. -/
abbrev Bytes := List UInt8

namespace Text

/-- The UTF-8 form of a text. -/
def utf8 (s : String) : Bytes := s.toUTF8.data.toList

/-- The text whose UTF-8 form is `bytes`, if there is one. -/
def ofUtf8? (bytes : Bytes) : Option String := String.fromUTF8? ⟨bytes.toArray⟩

/-- The number of bytes a text takes on the wire. -/
def size (s : String) : Nat := s.utf8ByteSize

end Text

/-- Why a byte list is not UTF-8. -/
structure Utf8Fault where
  /-- Number of leading bytes that form whole characters. -/
  validUpTo : Nat
  /-- Length of the sequence that cannot be part of any character; `none` when the list ends in the
  middle of a character that could still be completed. -/
  badLength : Option Nat
  deriving Repr, DecidableEq

namespace Utf8Fault

/-- A byte that continues a character. -/
def isContinuation (b : UInt8) : Bool := 0x80 ≤ b && b ≤ 0xBF

/-- Bytes that may follow the lead byte `b0` of a character of three bytes. -/
def secondOfThree (b0 b1 : UInt8) : Bool :=
  if b0 == 0xE0 then 0xA0 ≤ b1 && b1 ≤ 0xBF
  else if b0 == 0xED then 0x80 ≤ b1 && b1 ≤ 0x9F
  else isContinuation b1

/-- Bytes that may follow the lead byte `b0` of a character of four bytes. -/
def secondOfFour (b0 b1 : UInt8) : Bool :=
  if b0 == 0xF0 then 0x90 ≤ b1 && b1 ≤ 0xBF
  else if b0 == 0xF4 then 0x80 ≤ b1 && b1 ≤ 0x8F
  else isContinuation b1

/-- What stands at the head of a non-empty byte list. -/
inductive Head where
  /-- A whole character of this many bytes. -/
  | whole (length : Nat)
  /-- This many bytes that no character contains in this order. -/
  | wrong (length : Nat)
  /-- The start of a character, cut off by the end of the list. -/
  | cut
  deriving Repr, DecidableEq

/-- Classify the sequence led by `b0`, with `rest` behind it. -/
def head (b0 : UInt8) (rest : Bytes) : Head :=
  if b0 < 0x80 then .whole 1
  else if 0xC2 ≤ b0 && b0 ≤ 0xDF then
    match rest with
    | [] => .cut
    | b1 :: _ => if isContinuation b1 then .whole 2 else .wrong 1
  else if 0xE0 ≤ b0 && b0 ≤ 0xEF then
    match rest with
    | [] => .cut
    | b1 :: rest =>
      if !secondOfThree b0 b1 then .wrong 1
      else match rest with
        | [] => .cut
        | b2 :: _ => if isContinuation b2 then .whole 3 else .wrong 2
  else if 0xF0 ≤ b0 && b0 ≤ 0xF4 then
    match rest with
    | [] => .cut
    | b1 :: rest =>
      if !secondOfFour b0 b1 then .wrong 1
      else match rest with
        | [] => .cut
        | b2 :: rest =>
          if !isContinuation b2 then .wrong 2
          else match rest with
            | [] => .cut
            | b3 :: _ => if isContinuation b3 then .whole 4 else .wrong 3
  else .wrong 1

/-- Look for the first fault, having passed `seen` bytes, of which the next `skip` belong to a
character already recognised. -/
def findFrom (seen skip : Nat) : Bytes → Option Utf8Fault
  | [] => none
  | b :: rest =>
    match skip with
    | skip + 1 => findFrom (seen + 1) skip rest
    | 0 =>
      match head b rest with
      | .whole n => findFrom (seen + 1) (n - 1) rest
      | .wrong n => some ⟨seen, some n⟩
      | .cut => some ⟨seen, none⟩

/-- The first fault of a byte list, if it has one. -/
def find (bytes : Bytes) : Option Utf8Fault := findFrom 0 0 bytes

/-- The fault in words. -/
def message : Utf8Fault → String
  | ⟨pos, some n⟩ => s!"invalid utf-8 sequence of {n} bytes from index {pos}"
  | ⟨pos, none⟩ => s!"incomplete utf-8 byte sequence from index {pos}"

end Utf8Fault

end VoiceBridge
