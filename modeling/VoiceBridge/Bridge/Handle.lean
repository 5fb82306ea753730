import VoiceBridge.Bridge.Connection
import VoiceBridge.Bridge.WorkQueues

/-!
# Calls on a handle

What a caller can do with a connection. A call never waits: it changes what caller and driver share
and leaves a request in a work queue.
-/

namespace VoiceBridge

/-- The work queues of a bridge hold the names of connections. -/
abbrev Requests := WorkQueues String

namespace Connection

/-- The refusal of an operation in the present state. -/
def invalid (c : Connection) (operation : String) : BridgeError :=
  .invalidState c.config.sessionId operation c.state

/-- Ask for the wire to be opened. Only an idle connection can be opened. -/
def connect (c : Connection) (q : Requests) : Except BridgeError Unit × Connection × Requests :=
  if c.state ≠ .idle then (.error (c.invalid "connect"), c, q)
  else
    match q.enqueue .connect c.id with
    | (.ok (), q) => (.ok (), { c with connectRequested := true }, q)
    | (.error e, q) => (.error e, { c with connectRequested := false }, q)

/-- Close gracefully: queued text is still sent, pending audio is not. A close before the wire is
open takes effect when it opens, and to close again changes nothing. -/
def close (c : Connection) (q : Requests) : Except BridgeError Unit × Connection × Requests :=
  match c.state with
  | .idle =>
    if c.connectRequested then (.ok (), { c with closeAfterConnect := true }, q)
    else (.error (c.invalid "close"), c, q)
  | .connecting => (.ok (), { c with closeAfterConnect := true }, q)
  | .connected =>
    let (_, c) := c.beginDisconnect
    let (r, q) := q.enqueue .disconnect c.id
    (r, c, q)
  | .disconnecting | .disconnected | .failed => (.ok (), c, q)

/-- Close, and wait for the end. -/
def closeWithCompletion (c : Connection) (q : Requests) :
    Except BridgeError Unit × Connection × Requests :=
  match c.close q with
  | (.ok (), c, q) => (.ok (), c.subscribed, q)
  | refused => refused

/-- Ask for a writable turn, unless that has been asked already. -/
def requestWrite (c : Connection) (q : Requests) :
    Except BridgeError Unit × Connection × Requests :=
  if c.writeQueued then (.ok (), c, q)
  else
    match q.enqueue .write c.id with
    | (.ok (), q) => (.ok (), { c with writeQueued := true }, q)
    | (.error e, q) => (.error e, c, q)

/-- Send the signal that no more audio follows, and welcome the close of the far end. -/
def finish (c : Connection) (q : Requests) : Except BridgeError Unit × Connection × Requests :=
  if c.state ≠ .connected then (.error (c.invalid "finish"), c, q)
  else
    requestWrite
      { c with graceful := true, outbox := c.outbox ++ [c.config.profile.finish.frame] } q

/-- Queue a text. That can be done before the wire is open, but not once the connection closes. -/
def queueText (c : Connection) (text : String) (q : Requests) :
    Except BridgeError Unit × Connection × Requests :=
  match c.state with
  | .disconnecting | .disconnected | .failed => (.error (c.invalid "queue text"), c, q)
  | .idle | .connecting => (.ok (), { c with outbox := c.outbox ++ [.text text] }, q)
  | .connected => requestWrite { c with outbox := c.outbox ++ [.text text] } q

/-- Write one chunk of audio. The first overrun of a cycle is logged and will be reported. -/
def writeAudio (c : Connection) (chunk : Bytes) : WriteOutcome × Connection :=
  let (outcome, audio) := c.audio.write chunk
  let c := { c with audio }
  match outcome with
  | .overrun dropped _ true =>
    (outcome, { c.warned s!"audio buffer overrun; dropped {dropped} bytes" with
      overrunNotice := true })
  | _ => (outcome, c)

/-- Write chunks one after the other. -/
def writeChunks (c : Connection) : List Bytes → List WriteOutcome × Connection
  | [] => ([], c)
  | chunk :: rest =>
    let (outcome, c) := c.writeAudio chunk
    let (outcomes, c) := c.writeChunks rest
    (outcome :: outcomes, c)

/-- The producer is done for now: ask for a writable turn if there is something to send or report. -/
def releaseAudio (c : Connection) (q : Requests) : Connection × Requests :=
  if (c.audio.hasPending || c.overrunNotice) && c.isConnected then (c.requestWrite q).2 else (c, q)

/-- Copy bytes into the free part of the buffer and commit `count` of them, by default as many as
were copied. -/
def commitSlot (c : Connection) (bytes : Bytes) (count : Option Nat) :
    Except BufferError Unit × Connection :=
  let copied := min bytes.length c.audio.slot.length
  let (r, audio) := (c.audio.fillSlot bytes).advance (count.getD copied)
  (r, { c with audio })

/-- The caller lets go of the handle. Where no driver is at work, nobody is left to announce the end
of the connection. -/
def dropHandle (c : Connection) : Connection :=
  let c := { c with held := false }
  if c.isDriven then c else c.abandonWaits

/-- The handle in diagnostic text. -/
def shown (c : Connection) : String :=
  "ConnectionHandle \x7b session_id: " ++ Text.quoted c.config.sessionId
    ++ ", state: " ++ c.state.identifier ++ " \x7d"

end Connection

end VoiceBridge
