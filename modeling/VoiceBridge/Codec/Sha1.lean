import VoiceBridge.Text.Bytes

/-!
# SHA-1

The digest that ties the reply of a web socket upgrade to the key of its request.
-/

namespace VoiceBridge.Sha1

/-- The five words of the running digest. -/
structure Words where
  a : UInt32
  b : UInt32
  c : UInt32
  d : UInt32
  e : UInt32
  deriving Repr, DecidableEq

/-- The digest of nothing. -/
def start : Words := ⟨0x67452301, 0xEFCDAB89, 0x98BADCFE, 0x10325476, 0xC3D2E1F0⟩

/-- Rotate a word left by `n` bits, `n` from 1 to 31. -/
def rotate (n : UInt32) (w : UInt32) : UInt32 := (w <<< n) ||| (w >>> (32 - n))

/-- `n` as `width` bytes, the high one first. -/
def bigEndian : (width n : Nat) → Bytes
  | 0, _ => []
  | width + 1, n => bigEndian width (n / 256) ++ [UInt8.ofNat (n % 256)]

/-- The message followed by a one bit, zeros and its length in bits, in whole blocks of 64 bytes. -/
def pad (message : Bytes) : Bytes :=
  let zeros := (119 - message.length % 64) % 64
  message ++ 0x80 :: List.replicate zeros 0 ++ bigEndian 8 (8 * message.length)

/-- The bytes as words of four. -/
def words : Bytes → List UInt32
  | a :: b :: c :: d :: rest =>
    ((a.toUInt32 <<< 24) ||| (b.toUInt32 <<< 16) ||| (c.toUInt32 <<< 8) ||| d.toUInt32) :: words rest
  | _ => []

/-- Continue the message schedule, kept with the newest word first, by `n` words. -/
def extend : Nat → List UInt32 → List UInt32
  | 0, schedule => schedule
  | n + 1, schedule =>
    let word (i : Nat) := schedule.getD i 0
    extend n (rotate 1 (word 2 ^^^ word 7 ^^^ word 13 ^^^ word 15) :: schedule)

/-- One of the eighty rounds, with its word of the schedule. -/
def round (s : Words) (t : Nat) (w : UInt32) : Words :=
  let (f, k) :=
    if t < 20 then ((s.b &&& s.c) ||| ((~~~s.b) &&& s.d), (0x5A827999 : UInt32))
    else if t < 40 then (s.b ^^^ s.c ^^^ s.d, 0x6ED9EBA1)
    else if t < 60 then ((s.b &&& s.c) ||| (s.b &&& s.d) ||| (s.c &&& s.d), 0x8F1BBCDC)
    else (s.b ^^^ s.c ^^^ s.d, 0xCA62C1D6)
  ⟨rotate 5 s.a + f + s.e + k + w, s.a, rotate 30 s.b, s.c, s.d⟩

/-- Run the rounds over a schedule, numbered from `t`. -/
def rounds (s : Words) (t : Nat) : List UInt32 → Words
  | [] => s
  | w :: rest => rounds (round s t w) (t + 1) rest

/-- Take one block of 64 bytes into the digest. -/
def absorb (s : Words) (block : Bytes) : Words :=
  let schedule := (extend 64 (words block).reverse).reverse
  let r := rounds s 0 schedule
  ⟨s.a + r.a, s.b + r.b, s.c + r.c, s.d + r.d, s.e + r.e⟩

/-- Take `n` blocks into the digest. -/
def absorbBlocks (s : Words) : Nat → Bytes → Words
  | 0, _ => s
  | n + 1, bytes => absorbBlocks (absorb s (bytes.take 64)) n (bytes.drop 64)

/-- The twenty bytes of the digest of a message. -/
def digest (message : Bytes) : Bytes :=
  let padded := pad message
  let s := absorbBlocks start (padded.length / 64) padded
  [s.a, s.b, s.c, s.d, s.e].flatMap fun w => bigEndian 4 w.toNat

end VoiceBridge.Sha1
