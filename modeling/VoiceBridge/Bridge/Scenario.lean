import VoiceBridge.Bridge.Service
import VoiceBridge.Bridge.Stream

/-!
# Scenarios

A scenario is a sequence of actions of callers, of far ends and of the network. The actions of one
step follow each other without the event loop in between, and after each step the bridge settles.
-/

namespace VoiceBridge

/-- What a caller does with a connection. -/
inductive Call where
  | connect
  | close
  | closeWithCompletion
  | finish
  | text (s : String)
  /-- Write chunks of audio in one go, and queue a text before letting go of the buffer. -/
  | audio (chunks : List Bytes) (text : Option String)
  /-- Copy bytes into the buffer and commit some of them. -/
  | slot (bytes : Bytes) (commit : Option Nat)
  /-- Stream PCM without a pause. -/
  | stream (settings : StreamSettings) (pcm : Bytes) (closeAfter : Option Nat)
  | inspect
  | target
  | drop
  deriving Repr, DecidableEq

/-- What a far end does. -/
inductive FarCall where
  | send (arrivals : List Arrival)
  | next
  | nextData
  /-- Look at frames up to the first of a kind. -/
  | nextUntil (kind : String)
  | session
  deriving Repr, DecidableEq

inductive Action where
  | create (id : String) (config : ConnectionConfig) (panicsOn : Option String)
  | call (id : String) (call : Call)
  | far (id : String) (call : FarCall)
  | refuse (reason : String)
  | delay (d : Span)
  | autoPong (on : Bool)
  | echoClose (on : Bool)
  | faults (f : Faults)
  | openedCount
  | settings
  | shutdown
  deriving Repr, DecidableEq

/-- What an action is answered. -/
inductive Answer where
  | done
  | refused (e : BridgeError)
  | bufferRefused (e : BufferError)
  | noConnection
  /-- The handle was dropped before. -/
  | dropped
  /-- No far end has taken up the connection. -/
  | noPeer
  | noService
  | written (outcomes : List WriteOutcome) (pending : Nat)
  | cursor (n : Nat)
  | streamed (report : StreamReport)
  | text (s : String)
  | target (sessionId url : String)
  | frame (f : Option OutboundFrame)
  | frames (fs : List OutboundFrame)
  | count (n : Nat)
  | settings (config : ServiceConfig)
  deriving Repr, DecidableEq

inductive Step where
  | acts (actions : List Action)
  /-- Time passes in jumps, after each of which the bridge settles. -/
  | advance (jumps : List Nat)
  deriving Repr, DecidableEq

namespace Answer

/-- The answer to a call that yields nothing. -/
def ofUnit : Except BridgeError Unit → Answer
  | .ok () => done
  | .error e => refused e

/-- The answer to a call that yields nothing, with what the call leaves. -/
def ofCall (r : Except BridgeError Unit × Connection × Requests) : Answer × Connection × Requests :=
  (ofUnit r.1, r.2)

end Answer

namespace Connection

/-- A call of the caller. -/
def perform (c : Connection) (q : Requests) : Call → Answer × Connection × Requests
  | .connect => Answer.ofCall (c.connect q)
  | .close => Answer.ofCall (c.close q)
  | .closeWithCompletion => Answer.ofCall (c.closeWithCompletion q)
  | .finish => Answer.ofCall (c.finish q)
  | .text s => Answer.ofCall (c.queueText s q)
  | .audio chunks text =>
    let (outcomes, c) := c.writeChunks chunks
    let pending := c.audio.pendingLength
    let (c, q) := match text with
      | some s => (c.queueText s q).2
      | none => (c, q)
    (.written outcomes pending, c.releaseAudio q)
  | .slot bytes commit =>
    let (r, c) := c.commitSlot bytes commit
    let answer := match r with
      | .ok () => .cursor c.audio.cursor
      | .error e => .bufferRefused e
    (answer, c.releaseAudio q)
  | .stream settings pcm closeAfter =>
    let (report, c, q) := c.stream q closeAfter {} (settings.cut pcm)
    (.streamed report, c, q)
  | .inspect => (.text c.shown, c, q)
  | .target => (.target c.config.sessionId c.config.url, c, q)
  | .drop => (.done, c.dropHandle, q)

/-- What a far end does. Nothing comes in any more once the connection has ended. -/
def farCall (c : Connection) : FarCall → Answer × Connection
  | .send arrivals =>
    (.done, if c.isDriven then { c with wire := c.wire.deliver arrivals } else c)
  | .next => let (f, wire) := c.wire.next; (.frame f, { c with wire })
  | .nextData => let (f, wire) := c.wire.nextData; (.frame f, { c with wire })
  | .nextUntil kind =>
    let (fs, wire) := c.wire.nextUntil (·.kindName == kind)
    (.frames fs, { c with wire })
  | .session => (.text c.config.sessionId, c)

end Connection

namespace Bridge

/-- Put back what an action has changed. -/
def put (b : Bridge) (id : String) (c : Connection) (q : Requests) : Bridge :=
  { b.modify id fun _ => c with queues := q }

/-- One action. -/
def act (b : Bridge) : Action → Answer × Bridge
  | .create id config panicsOn =>
    if b.queues.stopped then (.noService, b)
    else
      match b.create id config panicsOn with
      | .ok b => (.done, b)
      | .error e => (.refused e, b)
  | .call id call =>
    match b.find? id with
    | none => (.noConnection, b)
    | some c =>
      if !c.held then (.dropped, b)
      else
        let (answer, c, q) := c.perform b.queues call
        (answer, b.put id c q)
  | .far id call =>
    match b.find? id with
    | none => (.noConnection, b)
    | some c =>
      if !c.wire.opened then (.noPeer, b)
      else
        let (answer, c) := c.farCall call
        (answer, b.put id c b.queues)
  | .refuse reason => (.done, { b with network := { b.network with refusal := some reason } })
  | .delay d => (.done, { b with network := { b.network with delay := some d } })
  | .autoPong on => (.done, { b with network := { b.network with autoPong := on } })
  | .echoClose on => (.done, { b with network := { b.network with echoClose := on } })
  | .faults f => (.done, { b with network := { b.network with faults := f } })
  | .openedCount => (.count b.openedCount, b)
  | .settings => (if b.queues.stopped then .noService else .settings b.config, b)
  | .shutdown => (.done, b.shutdown)

/-- Actions one after the other. -/
def actAll (b : Bridge) : List Action → List Answer × Bridge
  | [] => ([], b)
  | a :: rest =>
    let (answer, b) := b.act a
    let (answers, b) := b.actAll rest
    (answer :: answers, b)

/-- One step of a scenario, after which the bridge is settled. -/
def step (b : Bridge) : Step → List Answer × Bridge
  | .acts actions =>
    let (answers, b) := b.actAll actions
    (answers, b.settle)
  | .advance jumps => ([.done], b.advance jumps)

/-- A whole scenario. -/
def run (b : Bridge) : List Step → List (List Answer) × Bridge
  | [] => ([], b)
  | s :: rest =>
    let (answers, b) := b.step s
    let (later, b) := b.run rest
    (answers :: later, b)

/-- The far ends look at everything that was sent. -/
def collectAll (b : Bridge) : Bridge :=
  { b with roster := b.roster.map fun c => { c with wire := c.wire.collect c.wire.sent.length } }

end Bridge

end VoiceBridge
