import VoiceBridge.Web.Reply

/-!
# Frames

The unit in which the two ends of an open web socket talk: two bytes that say what it is, its
length, perhaps a mask, and the payload.
-/

namespace VoiceBridge.Web

structure Frame where
  final : Bool := true
  /-- The three bits that no extension has given a meaning. -/
  reserved : Nat := 0
  opcode : Nat
  masked : Bool := false
  payload : Bytes
  deriving Repr, DecidableEq

namespace Frame

/-- The number written by some bytes, the high one first. -/
def bigEndian (bytes : Bytes) : Nat := bytes.foldl (fun n b => 256 * n + b.toNat) 0

/-- The opcodes that mean something. -/
def isOpcode (n : Nat) : Bool := n ≤ 2 || (8 ≤ n && n ≤ 10)

/-- Take a given number of bytes, if there are so many. -/
def takeBytes (n : Nat) (bytes : Bytes) : Read WebError Bytes :=
  if bytes.length < n then .more else .done (bytes.take n) (bytes.drop n)

/-- Read a frame of at most `limit` payload bytes. Its opcode and its length are checked before its
payload has arrived; a masked payload is left as it is. -/
def read (limit : Nat) (bytes : Bytes) : Read WebError Frame :=
  (takeBytes 2 bytes).bind fun head rest =>
    let first := (head.getD 0 0).toNat
    let second := (head.getD 1 0).toNat
    let opcode := first % 16
    let masked := 128 ≤ second
    let short := second % 128
    let lengthBytes := if short = 126 then 2 else if short = 127 then 8 else 0
    (takeBytes lengthBytes rest).bind fun long rest =>
      let length := if lengthBytes = 0 then short else bigEndian long
      (takeBytes (if masked then 4 else 0) rest).bind fun _ rest =>
        if !isOpcode opcode then .bad (.protocol (.opcode opcode))
        else if limit < length then .bad (.messageTooLong length limit)
        else
          (takeBytes length rest).bind fun payload rest =>
            .done {
              final := 128 ≤ first
              reserved := first / 16 % 8
              opcode
              masked
              payload } rest

/-- The bytes of a frame without a mask. -/
def write (f : Frame) : Bytes :=
  let first := (if f.final then 128 else 0) + f.reserved % 8 * 16 + f.opcode % 16
  let length := f.payload.length
  let head : Bytes :=
    if length < 126 then [UInt8.ofNat length]
    else if length < 65536 then 126 :: [length / 256, length % 256].map UInt8.ofNat
    else 127 :: [7, 6, 5, 4, 3, 2, 1, 0].map fun i => UInt8.ofNat (length / Nat.pow 256 i % 256)
  UInt8.ofNat first :: head ++ f.payload

end Frame

end VoiceBridge.Web
