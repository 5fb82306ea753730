import VoiceBridge.Bridge.Turn

/-!
# Driving a connection

The driver of a connection waits for several things at once. `seeTo?` is what it does when it sees to one
of them; where more than one is ready it may be any. `step?` takes the first in a fixed order, which is one
way to go on, and `drive` takes such steps until nothing is ready; `workLeft` bounds their number. A timer
is due once the time is past its deadline.

The clock does not go on for ever. A driver that has to wait for a time which the clock cannot tell
breaks down: it is gone, and it leaves its connection in the state in which it was. So does one whose pings
are to follow each other without any time between.
-/

namespace VoiceBridge

/-- The clock tells the times before this one: it counts seconds, up to 2^63 of them. -/
def clockEnd : Nat := Nat.pow 2 63 * 1000000000

/-- What a driver adds to the time where it needs a deadline and has none. -/
def farFuture : Nat := 86400 * 365 * 1000000000

/-- A tick that comes no later than this keeps the rhythm. -/
def PingTimer.patience : Nat := 5000000

/-- The timer after a tick at time `now`: one that was much too late starts a new rhythm. -/
def PingTimer.ticked (p : PingTimer) (now : Nat) : PingTimer :=
  { p with next := (if p.next + patience < now then now else p.next) + p.period }

/-- A number of ticks after which the timer is not due. -/
def PingTimer.ticksDue (p : PingTimer) (now : Nat) : Nat :=
  if now ≤ p.next then 0 else (now - p.next) / p.period + 1

/-- The clock can tell the next ping, and it comes after this one. -/
def PingTimer.inReach (p : PingTimer) : Bool := 0 < p.period && p.next < clockEnd

/-- The clock can tell all that the driver is to wait for. -/
def Session.inReach (ctx : LoopContext) (s : Session) : Bool :=
  s.lastHeard + ctx.config.pongTimeout.nanos < clockEnd
    && s.closeDeadline.getD (ctx.now + farFuture) < clockEnd
    && s.ping.all PingTimer.inReach

/-- What a driver waits for. -/
inductive Errand where
  /-- A time that the clock cannot tell. -/
  | reckon
  /-- The wire opens, or cannot be opened. -/
  | dial
  /-- The time for opening the wire is over. -/
  | connectTimeout
  /-- A writable turn. -/
  | turn
  | arrival
  | ping
  /-- The far end was silent for too long. -/
  | silence
  /-- The time for answering the close frame is over. -/
  | closeTimeout
  deriving Repr, DecidableEq

/-- The order in which `step?` looks at them. -/
def Errand.order : List Errand :=
  [.reckon, .dial, .connectTimeout, .turn, .arrival, .ping, .silence, .closeTimeout]

namespace Connection

/-- The wire is open. -/
def established (ctx : LoopContext) (c : Connection) : Connection :=
  match c.moved .connecting .connected with
  | .error found =>
    (c.warned ("handshake finished while " ++ found.name ++ "; abandoning")).driverGone
  | .ok c =>
    let period := c.config.profile.keepaliveInterval ctx.config.keepalive
    let session : Session := {
      assembly := { limits := c.config.limits }
      lastHeard := ctx.now
      ping := period.map fun p => { period := p.nanos, next := ctx.now + p.nanos } }
    let c := { c with phase := .live session, wire := { c.wire with opened := true } }
    let c := c.emit .connectSuccess
    let c := if c.closeAfterConnect then c.beginDisconnect.2 else c
    { c with writable := c.writable || c.state == .disconnecting || c.hasOutboundWork }

/-- The wire that was asked for at time `since` has answered. -/
def answered (ctx : LoopContext) (since : Nat) (delay : Option Nat) : Bool :=
  delay.all fun d => since + d < ctx.now

/-- See to the wire that was asked for at time `since`. One that opens in the same moment in which the
time for it runs out is open. -/
def dial? (ctx : LoopContext) (since : Nat) (delay : Option Nat) (c : Connection) :
    Errand → Option Connection
  | .dial =>
    match c.wire.faults.invalid with
    | some reason => some (c.connectFailed (.invalidRequest reason))
    | none =>
      if answered ctx since delay then
        match ctx.network.refusal with
        | some reason => some (c.connectFailed (.connect c.config.url reason))
        | none => some (c.established ctx)
      else none
  | .connectTimeout =>
    if c.wire.faults.invalid = none ∧ answered ctx since delay = false ∧
        since + ctx.config.connectTimeout.nanos < ctx.now then
      some (c.connectFailed (.connectTimeout c.config.url ctx.config.connectTimeout))
    else none
  | _ => none

/-- Go on after an attempt to send. -/
def afterSend (ctx : LoopContext) : Option LinkError × Connection → Connection
  | (none, c) => c
  | (some e, c) => c.endedBy ctx (.lost e.message)

/-- Send a ping, unless the clock cannot tell the time of the next one. -/
def sendPing (ctx : LoopContext) (s : Session) (c : Connection) (p : PingTimer) : Connection :=
  let p := p.ticked ctx.now
  if p.next < clockEnd then
    afterSend ctx
      ({ c with phase := .live { s with ping := some p } }.transmit ctx.network (.ping []))
  else c.driverGone

/-- See to an open connection. -/
def attend? (ctx : LoopContext) (s : Session) (c : Connection) : Errand → Option Connection
  | .turn => if c.writable then some (afterSend ctx (c.turn ctx s)) else none
  | .arrival =>
    match c.wire.inbound with
    | a :: rest => some ({ c with wire := { c.wire with inbound := rest } }.takeIn ctx s a)
    | [] => none
  | .ping =>
    (s.ping.filter fun p => !s.closeSent && decide (p.next < ctx.now)).map (c.sendPing ctx s)
  | .silence =>
    if s.ping.isSome ∧ s.lastHeard + ctx.config.pongTimeout.nanos < ctx.now then
      some (c.endedBy ctx .silence)
    else none
  | .closeTimeout =>
    if s.closeDeadline.any fun d => d < ctx.now then some (c.endedBy ctx .noCloseReply) else none
  | _ => none

/-- See to one thing, if it is ready. A driver that cannot reckon its deadlines sees to nothing else. -/
def seeTo? (ctx : LoopContext) (c : Connection) (e : Errand) : Option Connection :=
  match c.phase with
  | .absent | .over => none
  | .dialling since delay => c.dial? ctx since delay e
  | .live s =>
    if s.inReach ctx then c.attend? ctx s e
    else if e = .reckon then some c.driverGone
    else none

/-- The next step of the driver in the fixed order, if one is ready. -/
def step? (ctx : LoopContext) (c : Connection) : Option Connection :=
  Errand.order.findSome? (c.seeTo? ctx)

/-- What is left to do: no step leaves as much as it found. -/
def workLeft (ctx : LoopContext) (c : Connection) : Nat :=
  match c.phase with
  | .absent | .over => 0
  | .dialling _ _ => 5 + c.wire.inbound.length + 2 * c.outbox.length
  | .live s =>
    1 + c.wire.inbound.length + 2 * c.outbox.length + (if c.writable then 1 else 0)
      + (if s.closeSent then 0
         else 2 + 2 * ((s.ping.map fun p => p.ticksDue ctx.now).getD 0))

/-- At most so many steps. -/
def driveFor (ctx : LoopContext) : Nat → Connection → Connection
  | 0, c => c
  | n + 1, c =>
    match c.step? ctx with
    | some c => driveFor ctx n c
    | none => c

/-- Step until nothing is ready. -/
def drive (ctx : LoopContext) (c : Connection) : Connection := driveFor ctx (c.workLeft ctx) c

end Connection

end VoiceBridge
