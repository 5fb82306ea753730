import VoiceBridge.Bridge.Wire
import VoiceBridge.Message.Assembly
import VoiceBridge.Web.Frame

/-!
# The client's end of a web socket

An endpoint turns frames into messages, signs of life and the close of the far end. It answers pings
and close frames on its own: the answer is queued and goes out with the next read or send.
-/

namespace VoiceBridge.Web

/-- How far the closing handshake has come. -/
inductive Closing where
  | active
  /-- A close frame was sent. -/
  | asked
  /-- A close frame was received. -/
  | told
  /-- A close frame was sent and then received. -/
  | agreed
  /-- Nothing can be read any more. -/
  | over
  deriving Repr, DecidableEq

structure Endpoint where
  /-- The longest message. -/
  limit : Nat
  closing : Closing := .active
  /-- Bytes that have arrived and have not been read. -/
  inbox : Bytes := []
  /-- No more bytes will arrive. -/
  finished : Bool := false
  /-- The message whose last fragment has not arrived yet. -/
  partly : Option Message := none
  /-- An answer that has not gone out yet. -/
  queued : Option Frame := none
  deriving Repr, DecidableEq

namespace Endpoint

def textOpcode : Nat := 1
def binaryOpcode : Nat := 2
def closeOpcode : Nat := 8
def pingOpcode : Nat := 9
def pongOpcode : Nat := 10

/-- Messages may be longer by this factor than what is delivered in the end. -/
def headroom : Nat := 8

/-- A frame of the client. -/
def frameOf : OutboundFrame → Frame
  | .text s => { opcode := textOpcode, masked := true, payload := Text.utf8 s }
  | .binary bytes => { opcode := binaryOpcode, masked := true, payload := bytes }
  | .ping bytes => { opcode := pingOpcode, masked := true, payload := bytes }
  | .close => { opcode := closeOpcode, masked := true, payload := [0x03, 0xE8] }

/-- Send a frame, and what is queued behind it. -/
def send (e : Endpoint) (f : OutboundFrame) : Except WebError (List Frame) × Endpoint :=
  match e.closing with
  | .over => (.error .gone, e)
  | .asked | .told | .agreed => (.error (.protocol .sendAfterClose), e)
  | .active =>
    let closing := match f with
      | .close => .asked
      | _ => .active
    (.ok (frameOf f :: e.queued.toList), { e with closing, queued := none })

/-- Queue an answer. Only a pong gives way to another. -/
def answer (e : Endpoint) (f : Frame) : Endpoint :=
  if e.queued.all fun q => q.opcode == pongOpcode then { e with queued := some f } else e

/-- A code that a close frame may carry. -/
def isCloseCode (n : Nat) : Bool :=
  (1000 ≤ n && n ≤ 1003) || (1007 ≤ n && n ≤ 1013) || (3000 ≤ n && n ≤ 4999)

/-- The code and the reason that a close frame carries, if it carries any. -/
def closeReason (payload : Bytes) : Except WebError (Option (Nat × String)) :=
  match payload with
  | [] => .ok none
  | [_] => .error (.protocol .closePayload)
  | a :: b :: rest =>
    match Text.ofUtf8? rest with
    | some reason => .ok (some (256 * a.toNat + b.toNat, reason))
    | none => .error .encoding

/-- The event of a close frame. -/
def closedBy : Option (Nat × String) → Arrival
  | some (code, reason) => .closed (some code) reason
  | none => .closed none ""

/-- The payload of a close frame. -/
def closePayload : Option (Nat × String) → Bytes
  | some (code, reason) =>
    UInt8.ofNat (code / 256) :: UInt8.ofNat (code % 256) :: Text.utf8 reason
  | none => []

/-- Take in a close frame. One with a code that may not be used is taken and answered as a breach
of the protocol. -/
def takeClose (e : Endpoint) (payload : Bytes) : Except WebError (Option Arrival) × Endpoint :=
  match closeReason payload with
  | .error fault => (.error fault, e)
  | .ok reason =>
    match e.closing with
    | .active =>
      let reason := reason.map fun r => if isCloseCode r.1 then r else (1002, "Protocol violation")
      let reply := { opcode := closeOpcode, masked := true, payload := closePayload reason }
      (.ok (some (closedBy reason)), { e with closing := .told }.answer reply)
    | _ => (.ok (some (closedBy reason)), { e with closing := .agreed })

/-- Go on with a message of which `m` is there. A text has to be the start of one. -/
def collect (e : Endpoint) (m : Message) (final : Bool) :
    Except WebError (Option Arrival) × Endpoint :=
  let fault := match m.kind with
    | .text => Utf8Fault.find m.payload
    | .binary => none
  if e.limit < m.payload.length then (.error (.messageTooLong m.payload.length e.limit), e)
  else if fault.any fun f => final || f.badLength.isSome then (.error .encoding, e)
  else if final then
    (.ok (some (.fragment (.whole m.kind m.payload))), { e with partly := none })
  else (.ok none, { e with partly := some m })

/-- Take in a fragment of a message. -/
def takeData (e : Endpoint) (f : Frame) : Except WebError (Option Arrival) × Endpoint :=
  match e.partly with
  | some m =>
    if f.opcode = 0 then e.collect { m with payload := m.payload ++ f.payload } f.final
    else
      let kind := if f.opcode = textOpcode then "TEXT" else "BINARY"
      (.error (.protocol (.interleaved kind)), e)
  | none =>
    if f.opcode = 0 then (.error (.protocol .strayContinuation), e)
    else e.collect ⟨if f.opcode = textOpcode then .text else .binary, f.payload⟩ f.final

/-- Take in a frame that says something about the socket. -/
def takeControl (e : Endpoint) (f : Frame) : Except WebError (Option Arrival) × Endpoint :=
  if !f.final then (.error (.protocol .fragmentedControl), e)
  else if 125 < f.payload.length then (.error (.protocol .longControl), e)
  else if f.opcode = closeOpcode then e.takeClose f.payload
  else if f.opcode = pingOpcode ∧ e.closing = .active then
    (.ok (some .heartbeat), e.answer { opcode := pongOpcode, masked := true, payload := f.payload })
  else (.ok (some .heartbeat), e)

/-- Take in a frame. -/
def takeFrame (e : Endpoint) (f : Frame) : Except WebError (Option Arrival) × Endpoint :=
  if e.closing = .told ∨ e.closing = .agreed then (.error (.protocol .receivedAfterClose), e)
  else if f.reserved ≠ 0 then (.error (.protocol .reservedBits), e)
  else if f.masked then (.error (.protocol .masked), e)
  else if 8 ≤ f.opcode then e.takeControl f
  else e.takeData f

/-- What fails cannot be read any more. -/
def fail (e : Endpoint) (fault : WebError) : Option Arrival × Endpoint :=
  (some (.failed (.receive fault.message)), { e with closing := .over })

/-- The stream has ended. It may do so once a close frame has been received. -/
def finish (e : Endpoint) : Option Arrival × Endpoint :=
  if e.closing = .told ∨ e.closing = .agreed then (some .ended, { e with closing := .over })
  else e.fail (.protocol .reset)

/-- Take in frames up to the first that is worth reporting, at most `fuel` of them. -/
def readFor : (fuel : Nat) → Endpoint → Option Arrival × Endpoint
  | 0, e => (none, e)
  | fuel + 1, e =>
    match Frame.read e.limit e.inbox with
    | .more => if e.finished then e.finish else (none, e)
    | .bad fault => e.fail fault
    | .done f rest =>
      match { e with inbox := rest }.takeFrame f with
      | (.error fault, e) => e.fail fault
      | (.ok (some a), e) => (some a, e)
      | (.ok none, e) => readFor fuel e

/-- Read on, after what is queued has gone out. There is no arrival where more bytes are needed. -/
def read (e : Endpoint) : Option Arrival × List Frame × Endpoint :=
  if e.closing = .over then (some .ended, [], e)
  else
    let (a, e') := readFor (e.inbox.length + 1) { e with queued := none }
    (a, e.queued.toList, e')

end Endpoint

end VoiceBridge.Web
