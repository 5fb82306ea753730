import VoiceBridge.Bridge.Error
import VoiceBridge.Bridge.Wire
import VoiceBridge.Config.Connection
import VoiceBridge.Connection.Event
import VoiceBridge.Log

/-!
# Connections

A connection is shared by its caller, who holds a handle, and by a driver, which the event loop
starts when it takes up the caller's request to connect. `emit` delivers events: nothing follows the
event that ends the connection, and all who wait for the end are told.
-/

namespace VoiceBridge

/-- One who waits for the end of a connection. -/
inductive Wait where
  | pending
  | resolved (outcome : TerminalOutcome)
  /-- No end will ever be announced. -/
  | abandoned
  deriving Repr, DecidableEq

/-- When to send pings. -/
structure PingTimer where
  period : Nat
  /-- The time of the next ping. -/
  next : Nat
  deriving Repr, DecidableEq

/-- What a driver keeps while its wire is open. Times are in nanoseconds. -/
structure Session where
  assembly : Assembly
  closeSent : Bool := false
  closeDeadline : Option Nat := none
  /-- When the far end last gave a sign of life. -/
  lastHeard : Nat
  ping : Option PingTimer
  deriving Repr, DecidableEq

/-- How far the driver of a connection has come. -/
inductive Phase where
  /-- There is no driver yet. -/
  | absent
  /-- The wire was asked for at time `since` and takes `delay` to open. -/
  | dialling (since : Nat) (delay : Option Nat)
  | live (s : Session)
  /-- The driver has ended. -/
  | over
  deriving Repr, DecidableEq

structure Connection where
  /-- The name under which the event loop knows it. -/
  id : String
  config : ConnectionConfig
  /-- The kinds of events on which its callback fails. -/
  panicsOn : List String := []
  audio : AudioBuffer
  state : ConnectionState := .idle
  /-- Frames to send ahead of audio, oldest first. -/
  outbox : List OutboundFrame := []
  /-- An overrun is to be reported. -/
  overrunNotice : Bool := false
  /-- It stands in the write queue. -/
  writeQueued : Bool := false
  /-- The caller has finished: a close of the far end is now welcome. -/
  graceful : Bool := false
  connectRequested : Bool := false
  /-- The caller closed before the wire was open. -/
  closeAfterConnect : Bool := false
  /-- The driver may take a writable turn. -/
  writable : Bool := false
  outcome : Option TerminalOutcome := none
  waits : List Wait := []
  /-- All events delivered, oldest first. -/
  events : List EventKind := []
  log : List LogLine := []
  /-- The caller still holds the handle. -/
  held : Bool := true
  phase : Phase := .absent
  wire : Wire := {}
  deriving Repr, DecidableEq

namespace Connection

/-- A connection that has not been asked to do anything. -/
def create (id : String) (config : ConnectionConfig) (panicsOn : Option String) :
    Except BridgeError Connection :=
  match config.validate with
  | .error e => .error (.config e)
  | .ok () =>
    match AudioBuffer.create config.audioCapacity config.headerReserve with
    | .error e => .error (.buffer e)
    | .ok audio =>
      .ok { id, config, panicsOn := panicsOn.toList, audio := audio.withLowSpace config.lowSpace }

def isConnected (c : Connection) : Bool := c.state == .connected

/-- A driver is at work. -/
def isDriven (c : Connection) : Bool :=
  match c.phase with
  | .dialling .. | .live _ => true
  | .absent | .over => false

/-- Somebody still has the connection. -/
def isAlive (c : Connection) : Bool := c.held || c.isDriven

/-- Something is to be sent or reported. -/
def hasOutboundWork (c : Connection) : Bool :=
  !c.outbox.isEmpty || c.audio.hasPending || c.overrunNotice

/-- Log a line about the session. -/
def logged (c : Connection) (level : LogLevel) (text : String) : Connection :=
  { c with log := c.log ++ [⟨level, "session " ++ c.config.sessionId ++ ": " ++ text⟩] }

def warned (c : Connection) (text : String) : Connection := c.logged .warn text

/-- Run the callback on an event. One that fails is noted and does no further harm. -/
def notify (c : Connection) (e : EventKind) : Connection :=
  let c := { c with events := c.events ++ [e] }
  if e.name ∈ c.panicsOn then
    c.logged .error ("notify callback panicked while handling " ++ e.name)
  else c

/-- The events as the owner of the connection receives them. -/
def delivered (c : Connection) : List Event :=
  c.events.map fun kind => ⟨c.config.sessionId, c.config.profile.tag, kind⟩

/-- Tell all who wait for the end. -/
def resolveWaits (c : Connection) (outcome : TerminalOutcome) : Connection :=
  { c with waits := c.waits.map fun w => if w = .pending then .resolved outcome else w }

/-- Let go of all who still wait: they will not be told. -/
def abandonWaits (c : Connection) : Connection :=
  { c with waits := c.waits.map fun w => if w = .pending then .abandoned else w }

/-- Deliver an event. After the event that ends the connection nothing is delivered. -/
def emit (c : Connection) (e : EventKind) : Connection :=
  if c.outcome.isSome then c
  else
    match e.outcome? with
    | none => c.notify e
    | some outcome => ({ c with outcome := some outcome }.notify e).resolveWaits outcome

/-- Nothing follows the event that ends the connection. -/
theorem emit_of_outcome {c : Connection} (h : c.outcome.isSome = true) (e : EventKind) :
    c.emit e = c := by
  rw [emit, if_pos h]

theorem events_notify (c : Connection) (e : EventKind) : (c.notify e).events = c.events ++ [e] := by
  unfold notify logged
  dsimp only
  split <;> rfl

/-- An event comes behind those before it. -/
theorem events_emit {c : Connection} (h : c.outcome = none) (e : EventKind) :
    (c.emit e).events = c.events ++ [e] := by
  rw [emit, h, if_neg (by decide)]
  split
  · exact events_notify c e
  · exact events_notify _ e

/-- Wait for the end, which may have come already. -/
def subscribed (c : Connection) : Connection :=
  let w := match c.outcome with
    | some outcome => .resolved outcome
    | none => .pending
  { c with waits := c.waits ++ [w] }

/-- Make a move between states, if the connection stands at its source. -/
def moved (c : Connection) (source target : ConnectionState) : Except ConnectionState Connection :=
  match c.state.transition source target with
  | .ok state => .ok { c with state }
  | .error found => .error found

/-- From connected to disconnecting; whether the move was made. -/
def beginDisconnect (c : Connection) : Bool × Connection :=
  match c.moved .connected .disconnecting with
  | .ok c => (true, c)
  | .error _ => (false, c)

end Connection

end VoiceBridge
