import VoiceBridge.Text.Bytes

/-!
# Fresh names for sessions

A session without a name is given a UUID of version 4, made from sixteen random bytes.
-/

namespace VoiceBridge

namespace FreshId

/-- A byte in two hexadecimal digits. -/
def hexPair (b : UInt8) : List Char :=
  [Nat.digitChar (b.toNat / 16), Nat.digitChar (b.toNat % 16)]

/-- Mark sixteen bytes as a UUID of version 4. -/
def stamp (bytes : Bytes) : Bytes :=
  bytes.mapIdx fun i b =>
    if i = 6 then (b &&& 0x0F) ||| 0x40 else if i = 8 then (b &&& 0x3F) ||| 0x80 else b

/-- The text of a UUID: five groups with hyphens between them. -/
def text (bytes : Bytes) : String :=
  let digits (start count : Nat) : List Char := ((bytes.drop start).take count).flatMap hexPair
  String.ofList <| ['-'].intercalate
    [digits 0 4, digits 4 2, digits 6 2, digits 8 2, digits 10 6]

/-- The name made from random bytes. -/
def ofBytes (bytes : Bytes) : String := text (stamp bytes)

end FreshId

end VoiceBridge
