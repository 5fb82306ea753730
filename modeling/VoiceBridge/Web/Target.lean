import VoiceBridge.Config.Connection
import VoiceBridge.Text.Decimal
import VoiceBridge.Web.Error

/-!
# Targets

A target is what a web socket URL says behind its scheme: an authority, up to the first slash,
question mark or hash, and a path with a query. What follows a hash is dropped.
-/

namespace VoiceBridge.Web

structure Target where
  authority : List Char
  /-- Path and query. -/
  path : List Char
  deriving Repr, DecidableEq

/-- What reading an authority has met so far. -/
structure AuthorityScan where
  /-- Colons behind the user part and the bracketed address. -/
  colons : Nat := 0
  opened : Bool := false
  closed : Bool := false
  percent : Bool := false
  /-- The last character was an at sign. -/
  atEnd : Bool := false
  deriving Repr, DecidableEq

namespace AuthorityScan

/-- A character that may stand in an authority for itself. -/
def isPlain (c : Char) : Bool :=
  c.isAlphanum || "!$&'()*+,-.;=_~".toList.contains c

/-- Read one more character. -/
def read (s : AuthorityScan) (c : Char) : Except TargetFault AuthorityScan :=
  if c = ':' then
    if 8 ≤ s.colons then .error .authority
    else .ok { s with colons := s.colons + 1, atEnd := false }
  else if c = '[' then
    if s.percent || s.opened then .error .authority else .ok { s with opened := true, atEnd := false }
  else if c = ']' then
    if !s.opened || s.closed then .error .authority
    else .ok { s with closed := true, colons := 0, percent := false, atEnd := false }
  else if c = '@' then .ok { s with colons := 0, percent := false, atEnd := true }
  else if c = '%' then .ok { s with percent := true, atEnd := false }
  else if isPlain c then .ok { s with atEnd := false }
  else .error .character

/-- What has been read is a whole authority. -/
def isWhole (s : AuthorityScan) : Bool :=
  s.opened == s.closed && s.colons ≤ 1 && !s.atEnd && !s.percent

end AuthorityScan

namespace Target

/-- A character that ends an authority. -/
def isStop (c : Char) : Bool := c == '/' || c == '?' || c == '#'

/-- Split an authority off, which is `read` backwards so far. -/
def splitAuthority (s : AuthorityScan) (read : List Char) :
    List Char → Except TargetFault (List Char × List Char)
  | [] => if s.isWhole then .ok (read.reverse, []) else .error .authority
  | c :: rest =>
    if isStop c then
      if s.isWhole then .ok (read.reverse, c :: rest) else .error .authority
    else
      match s.read c with
      | .ok s => splitAuthority s (c :: read) rest
      | .error e => .error e

/-- A character that may stand in a path. -/
def isPathChar (c : Char) : Bool :=
  let n := c.toNat
  n == 0x21 || (0x24 ≤ n && n ≤ 0x3B) || n == 0x3D || (0x40 ≤ n && n ≤ 0x5F)
    || (0x61 ≤ n && n ≤ 0x7A) || n == 0x7C || 0x7E ≤ n || n == 0x22 || n == 0x7B || n == 0x7D

/-- A character that may stand in a query. -/
def isQueryChar (c : Char) : Bool :=
  let n := c.toNat
  n == 0x21 || (0x24 ≤ n && n ≤ 0x3B) || n == 0x3D || 0x3F ≤ n

/-- The query behind its question mark, without a fragment. -/
def readQuery : List Char → Except TargetFault (List Char)
  | [] => .ok []
  | c :: rest =>
    if c = '#' then .ok []
    else if isQueryChar c then do return c :: (← readQuery rest)
    else .error .character

/-- Path and query, without a fragment. -/
def readPath : List Char → Except TargetFault (List Char)
  | [] => .ok []
  | c :: rest =>
    if c = '#' then .ok []
    else if c = '?' then do return c :: (← readQuery rest)
    else if isPathChar c then do return c :: (← readPath rest)
    else .error .character

/-- The longest URL, in bytes. -/
def maxLength : Nat := 65534

/-- The target of a connection. -/
def ofConfig (c : ConnectionConfig) : Except TargetFault Target := do
  if maxLength < Text.size c.url then throw .tooLong
  let behind := c.urlHost.toList ++ ':' :: (toString c.port).toList ++ c.path.toList
  let (authority, rest) ← splitAuthority {} [] behind
  if authority.isEmpty then throw .form
  return { authority, path := ← readPath rest }

/-- The request line of the target. -/
def requestLine (t : Target) : String :=
  let path := if t.path.isEmpty then "/" else String.ofList t.path
  s!"GET {path} HTTP/1.1"

/-- The text behind the first character that satisfies `p`, or all of it. -/
def behindFirst (p : Char → Bool) (s : List Char) : List Char :=
  match s.dropWhile fun c => !p c with
  | [] => s
  | _ :: rest => rest

/-- The text behind the last character that satisfies `p`, or all of it. -/
def behindLast (p : Char → Bool) (s : List Char) : List Char :=
  (s.reverse.takeWhile fun c => !p c).reverse

/-- The value of the `Host` header: the authority without a user part. -/
def hostHeader (t : Target) : String := String.ofList (behindFirst (· == '@') t.authority)

/-- The host to connect to. -/
def host (t : Target) : String :=
  let s := behindLast (· == '@') t.authority
  match s with
  | '[' :: rest => String.ofList (rest.takeWhile (· != ']'))
  | _ => String.ofList (s.takeWhile (· != ':'))

/-- The port that the authority names behind its last colon. -/
def writtenPort? (t : Target) : Option Nat :=
  if t.authority.contains ':' then Decimal.below? 65536 (behindLast (· == ':') t.authority)
  else none

/-- The port to connect to. -/
def port (t : Target) (useTls : Bool) : Nat := t.writtenPort?.getD (if useTls then 443 else 80)

end Target

end VoiceBridge.Web
