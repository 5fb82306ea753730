import VoiceBridge.Bridge.Ending

/-!
# Sending and receiving

One writable turn sends at most one frame: queued text first, then, on a closing connection, the
close frame, and otherwise all pending audio. Whether the connection is closing is looked at once, when
the turn begins. Inbound fragments are put together and delivered.
-/

namespace VoiceBridge.Connection

/-- Send a frame; the error if that fails. -/
def transmit (net : Network) (c : Connection) (f : OutboundFrame) :
    Option LinkError × Connection :=
  match c.wire.send net f with
  | (.error e, wire) => (some e, { c with wire })
  | (.ok written, wire) =>
    let c := { c with wire }
    let expected := f.length
    let kind := f.kindName
    if written < expected then
      (none, c.warned s!"short {kind} write ({written} of {expected} bytes)")
    else (none, c)

/-- Report an overrun, if one is noted and the turn found the connection open. -/
def reportOverrun (found : ConnectionState) (c : Connection) : Connection :=
  if found == .connected && c.overrunNotice then
    { c with overrunNotice := false }.emit .bufferOverrun
  else c

/-- Take the oldest text out of the outbox. -/
def takeText (c : Connection) : Option OutboundFrame × Connection :=
  (c.outbox.head?, { c with outbox := c.outbox.tail })

/-- After a text there is more to do on a closing connection and where more is pending. -/
def hasMore (c : Connection) : Bool :=
  !c.outbox.isEmpty || c.audio.hasPending || c.state == .disconnecting

/-- Send a text; the error if that fails. -/
def sendText (ctx : LoopContext) (c : Connection) (f : OutboundFrame) :
    Option LinkError × Connection :=
  match c.transmit ctx.network f with
  | (none, c) => (none, { c with writable := c.writable || c.hasMore })
  | failed => failed

/-- Drop pending audio, send the close frame and start to wait for the reply. -/
def sendClose (ctx : LoopContext) (s : Session) (c : Connection) :
    Option LinkError × Connection :=
  match { c with audio := c.audio.reset }.transmit ctx.network .close with
  | (none, c) =>
    let deadline := ctx.now + ctx.config.closeTimeout.nanos
    (none, { c with phase := .live { s with closeSent := true, closeDeadline := some deadline } })
  | failed => failed

/-- Send all pending audio as one frame. -/
def sendAudio (ctx : LoopContext) (c : Connection) : Option LinkError × Connection :=
  match c.audio.takePending with
  | (some bytes, audio) => { c with audio }.transmit ctx.network (.binary bytes)
  | (none, _) => (none, c)

/-- What a turn sends that found the connection in the state `found` and took the text `next`. -/
def sendNext (ctx : LoopContext) (s : Session) (found : ConnectionState)
    (next : Option OutboundFrame) (c : Connection) : Option LinkError × Connection :=
  match next with
  | some f => c.sendText ctx f
  | none => if found = .disconnecting then c.sendClose ctx s else c.sendAudio ctx

/-- One writable turn; the error if sending fails. -/
def turn (ctx : LoopContext) (s : Session) (c : Connection) : Option LinkError × Connection :=
  let found := c.state
  let c := { c with writable := false }
  if s.closeSent || !(found == .connected || found == .disconnecting) then (none, c)
  else
    let (next, c) := (c.reportOverrun found).takeText
    c.sendNext ctx s found next

/-- Deliver a whole message. -/
def deliverMessage (c : Connection) (m : Message) : Connection :=
  match m.kind with
  | .text =>
    match Text.ofUtf8? m.payload with
    | some text => c.emit (.message text)
    | none =>
      let fault := ((Utf8Fault.find m.payload).map Utf8Fault.message).getD ""
      c.warned ("dropping non-UTF-8 text message: " ++ fault)
  | .binary => if c.config.profile.bidirectional then c.emit (.binary m.payload) else c

/-- Note the message that a fragment cuts off. -/
def noteInterrupted (c : Connection) (a : Assembly) (f : Fragment) : Connection :=
  match a.interrupted? f with
  | some n => { c with log := c.log ++ [.messageInterrupted n] }
  | none => c

/-- Put a fragment to those before it, and deliver the message that it completes. -/
def pushFragment (s : Session) (c : Connection) (f : Fragment) : Connection :=
  let c := c.noteInterrupted s.assembly f
  let (outcome, assembly) := s.assembly.push f
  let c := { c with phase := .live { s with assembly } }
  match outcome with
  | .incomplete | .skipped => c
  | .oversized received =>
    let limit := s.assembly.limits.maxMessage
    c.warned s!"inbound message larger than {limit} bytes ({received} received); dropped"
  | .complete m => c.deliverMessage m

/-- Take in a fragment. A closing connection takes in nothing more. -/
def takeFragment (s : Session) (c : Connection) (f : Fragment) : Connection :=
  if c.state = .disconnecting then
    { c with phase := .live { s with assembly := s.assembly.clear } }
  else c.pushFragment s f

/-- Take in what arrived. -/
def takeIn (ctx : LoopContext) (s : Session) (c : Connection) (a : Arrival) : Connection :=
  match a with
  | .fragment f => c.takeFragment { s with lastHeard := ctx.now } f
  | .heartbeat => { c with phase := .live { s with lastHeard := ctx.now } }
  | .closed _ _ => c.endedBy ctx .remoteClose
  | .failed e => c.endedBy ctx (.lost e.message)
  | .ended => c.endedBy ctx (.lost "connection reset without close frame")

end VoiceBridge.Connection
