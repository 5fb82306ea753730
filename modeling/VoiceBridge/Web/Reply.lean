import VoiceBridge.Text.Bytes
import VoiceBridge.Web.Error

/-!
# Replies to an upgrade request

The head of a reply is a status line, header lines and an empty line. It is read from the bytes that
have arrived so far, which may not be enough.
-/

namespace VoiceBridge.Web

/-- What came of reading something from the front of some bytes. -/
inductive Read (ε α : Type) where
  | done (value : α) (rest : Bytes)
  /-- More bytes are needed. -/
  | more
  | bad (fault : ε)
  deriving Repr, DecidableEq

def Read.bind {ε α β : Type} (r : Read ε α) (f : α → Bytes → Read ε β) : Read ε β :=
  match r with
  | done value rest => f value rest
  | more => more
  | bad fault => bad fault

/-- The head of a reply. -/
structure Reply where
  /-- The digit behind `HTTP/1.`. -/
  minorVersion : Nat
  code : Nat
  headers : List (String × Bytes)
  deriving Repr, DecidableEq

namespace Reply

abbrev Reading (α : Type) := Read HeadFault α

/-- The ASCII form of a text. -/
def ascii (s : String) : Bytes := Text.utf8 s

/-- A character of a header name. -/
def isNameByte (b : UInt8) : Bool :=
  let c := Char.ofNat b.toNat
  c.isAlphanum || "!#$%&'*+-.^_`|~".toList.contains c

/-- A character of a header value or of the text behind the status. -/
def isValueByte (b : UInt8) : Bool := b == 9 || (0x20 ≤ b && b != 0x7F)

def isBlankByte (b : UInt8) : Bool := b == 9 || b == 0x20

/-- Pass over empty lines. -/
def skipLines : Bytes → Reading Unit
  | [] => .more
  | 13 :: 10 :: rest => skipLines rest
  | [13] => .more
  | 13 :: _ => .bad .newLine
  | 10 :: rest => skipLines rest
  | bytes => .done () bytes

/-- The version of the protocol. Fewer bytes than it takes are refused once they cannot become it. -/
def readVersion (bytes : Bytes) : Reading Nat :=
  if bytes.length < 8 then
    if bytes.isPrefixOf (ascii "HTTP/1.") then .more else .bad .version
  else if bytes.take 8 = ascii "HTTP/1.0" then .done 0 (bytes.drop 8)
  else if bytes.take 8 = ascii "HTTP/1.1" then .done 1 (bytes.drop 8)
  else .bad .version

/-- One given byte. -/
def expect (b : UInt8) (fault : HeadFault) : Bytes → Reading Unit
  | [] => .more
  | x :: rest => if x = b then .done () rest else .bad fault

/-- A decimal digit. -/
def readDigit : Bytes → Reading Nat
  | [] => .more
  | x :: rest => if 48 ≤ x && x ≤ 57 then .done (x.toNat - 48) rest else .bad .status

/-- The three digits of a status. -/
def readCode (bytes : Bytes) : Reading Nat :=
  (readDigit bytes).bind fun a rest =>
    (readDigit rest).bind fun b rest =>
      (readDigit rest).bind fun c rest => .done (100 * a + 10 * b + c) rest

/-- The rest of a line, of which `line` has been read backwards. -/
def readLine (fault : HeadFault) (line : Bytes) : Bytes → Reading Bytes
  | [] => .more
  | 10 :: rest => .done line.reverse rest
  | 13 :: rest => (expect 10 fault rest).bind fun _ rest => .done line.reverse rest
  | b :: rest => if isValueByte b then readLine fault (b :: line) rest else .bad fault

/-- What follows the status: a text, which is dropped, or nothing. -/
def readReason : Bytes → Reading Unit
  | [] => .more
  | 32 :: rest => (readLine .status [] rest).bind fun _ rest => .done () rest
  | 13 :: rest => expect 10 .status rest
  | 10 :: rest => .done () rest
  | _ => .bad .status

/-- A header name up to its colon, of which `name` has been read backwards. -/
def readName (name : Bytes) : Bytes → Reading String
  | [] => .more
  | b :: rest =>
    if isNameByte b then readName (b :: name) rest
    else if b = 58 && !name.isEmpty then
      .done (String.ofList (name.reverse.map fun b => (Char.ofNat b.toNat).toLower)) rest
    else .bad .headerName

/-- The bytes without the blanks around them. -/
def trimBytes (bytes : Bytes) : Bytes :=
  ((bytes.dropWhile isBlankByte).reverse.dropWhile isBlankByte).reverse

/-- The most headers a reply may have. -/
def maxHeaders : Nat := 124

/-- Header lines up to the empty line: at most `fuel` of them, of which `left` have room. -/
def readHeaders : (fuel left : Nat) → Bytes → Reading (List (String × Bytes))
  | 0, _, _ => .more
  | _, _, [] => .more
  | _, _, 10 :: rest => .done [] rest
  | _, _, 13 :: rest => (expect 10 .newLine rest).bind fun _ rest => .done [] rest
  | fuel + 1, left, bytes =>
    (readName [] bytes).bind fun name rest =>
      (readLine .headerValue [] rest).bind fun value rest =>
        match left with
        | 0 => .bad .tooManyHeaders
        | left + 1 =>
          (readHeaders fuel left rest).bind fun headers rest =>
            .done ((name, trimBytes value) :: headers) rest

/-- The head of a reply, from the front of what has arrived. -/
def read (bytes : Bytes) : Reading Reply :=
  (skipLines bytes).bind fun _ rest =>
    (readVersion rest).bind fun minorVersion rest =>
      (expect 32 .version rest).bind fun _ rest =>
        (readCode rest).bind fun code rest =>
          (readReason rest).bind fun _ rest =>
            (readHeaders (rest.length + 1) maxHeaders rest).bind fun headers rest =>
              .done { minorVersion, code, headers } rest

/-- The value of a header, the first if there are several. -/
def header? (r : Reply) (name : String) : Option Bytes := r.headers.lookup name

end Reply

end VoiceBridge.Web
