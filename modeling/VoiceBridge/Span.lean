/-!
# Lengths of time

A `Span` counts nanoseconds. Its text uses the largest of the units s, ms, µs and ns in which the
span is at least one, with as many decimals as it needs.
-/

namespace VoiceBridge

/-- A length of time in nanoseconds. -/
structure Span where
  nanos : Nat
  deriving Repr, DecidableEq, Inhabited

namespace Span

def ofMillis (n : Nat) : Span := ⟨n * 1000000⟩

def ofSecs (n : Nat) : Span := ⟨n * 1000000000⟩

/-- Whole milliseconds, rounded down. -/
def millis (s : Span) : Nat := s.nanos / 1000000

/-- The decimals of `part / 10 ^ width`, without zeros at the end. -/
def decimals (width part : Nat) : List Char :=
  let digits := Nat.toDigits 10 part
  let padded := List.replicate (width - digits.length) '0' ++ digits
  (padded.reverse.dropWhile (· == '0')).reverse

/-- `count / 10 ^ width` of a unit. -/
def inUnit (count width : Nat) (unit : String) : String :=
  let part := count % Nat.pow 10 width
  let whole := toString (count / Nat.pow 10 width)
  if part = 0 then whole ++ unit
  else whole ++ "." ++ String.ofList (decimals width part) ++ unit

/-- The span in words, such as `1.5s` or `200ms`. -/
def text (s : Span) : String :=
  if 1000000000 ≤ s.nanos then inUnit s.nanos 9 "s"
  else if 1000000 ≤ s.nanos then inUnit s.nanos 6 "ms"
  else if 1000 ≤ s.nanos then inUnit s.nanos 3 "µs"
  else inUnit s.nanos 0 "ns"

end Span

end VoiceBridge
