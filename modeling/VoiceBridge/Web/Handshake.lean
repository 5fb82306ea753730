import VoiceBridge.Codec.Base64
import VoiceBridge.Codec.Sha1
import VoiceBridge.Web.Reply
import VoiceBridge.Web.Request
import VoiceBridge.Web.Status

/-!
# The opening handshake

A reply agrees to a request if it switches protocols, proves that it knows the key and takes one of
the subprotocols asked for.
-/

namespace VoiceBridge.Web

/-- What a key is answered with. -/
def acceptKey (key : String) : String :=
  Base64.encode (Sha1.digest (Text.utf8 (key ++ "258EAFA5-E914-47DA-95CA-C5AB0DC85B11")))

/-- The bytes as small ASCII letters, where they are ASCII. -/
def lowered (bytes : Bytes) : List Char := bytes.map fun b => (Char.ofNat b.toNat).toLower

/-- A header holds the given word, in either case of letters. -/
def Reply.claims (r : Reply) (name word : String) : Bool :=
  (r.header? name).any fun value => lowered value == word.toList

/-- The subprotocol of a reply is one that was asked for. -/
def checkSubprotocol (asked : Option (List (List Char))) (answered : Option Bytes) :
    Except WebError Unit :=
  match asked, answered with
  | none, none => .ok ()
  | some _, none => .error (.protocol .noSubprotocol)
  | none, some _ => .error (.protocol .unexpectedSubprotocol)
  | some asked, some answered =>
    if answered.any fun b => 0x7F ≤ b then .error .encoding
    else if asked.contains (answered.map fun b => Char.ofNat b.toNat) then .ok ()
    else .error (.protocol .unknownSubprotocol)

/-- Whether a reply agrees to a request. -/
def Reply.agrees (r : Reply) (request : Request) (key : String) : Except WebError Unit :=
  if r.minorVersion < 1 then .error (.protocol .oldVersion)
  else if r.code < 100 then .error .statusCode
  else if r.code ≠ 101 then .error (.status r.code (statusReason? r.code))
  else if !r.claims "upgrade" "websocket" then .error (.protocol .noUpgrade)
  else if !r.claims "connection" "upgrade" then .error (.protocol .noConnection)
  else if r.header? "sec-websocket-accept" ≠ some (Text.utf8 (acceptKey key)) then
    .error (.protocol .acceptMismatch)
  else checkSubprotocol request.subprotocols (r.header? "sec-websocket-protocol")

/-- Bytes within which the head of a reply has to end. -/
def headLimit : Nat := 65536

/-- Read a reply from everything that the far end sends, and check it. What follows it belongs to
the open socket. -/
def openWith (request : Request) (key : String) (incoming : Bytes) : Except WebError Bytes :=
  match Reply.read (incoming.take headLimit) with
  | .bad .tooManyHeaders => .error .tooManyHeaders
  | .bad fault => .error (.protocol (.head fault))
  | .more =>
    if headLimit < incoming.length then .error .endlessHead
    else .error (.protocol .handshakeIncomplete)
  | .done reply rest =>
    match reply.agrees request key with
    | .ok () => .ok (rest ++ incoming.drop headLimit)
    | .error e => .error e

end VoiceBridge.Web
