import VoiceBridge.Bridge.Drive
import VoiceBridge.Bridge.Handle

/-!
# The bridge

One event loop serves all connections. It takes the requests out of the work queues and starts or
wakes the drivers concerned. Between the actions of callers and of the outside world the bridge is
settled: the loop and all drivers go on until nothing is ready. Time passes in jumps.
-/

namespace VoiceBridge

structure Bridge where
  config : ServiceConfig
  network : Network := {}
  queues : Requests := {}
  /-- The time in nanoseconds. -/
  now : Nat := 0
  /-- All connections in the order of their making. -/
  roster : List Connection := []
  deriving Repr, DecidableEq, Inhabited

namespace Bridge

def context (b : Bridge) : LoopContext := ⟨b.config, b.network, b.now⟩

/-- The connection of a name. -/
def find? (b : Bridge) (id : String) : Option Connection := b.roster.find? (·.id == id)

/-- Change the first connection of a name. -/
def modifyIn (id : String) (f : Connection → Connection) : List Connection → List Connection
  | [] => []
  | c :: rest => if c.id = id then f c :: rest else c :: modifyIn id f rest

def modify (b : Bridge) (id : String) (f : Connection → Connection) : Bridge :=
  { b with roster := modifyIn id f b.roster }

/-- The wires that far ends have taken up. -/
def openedCount (b : Bridge) : Nat := b.roster.countP (·.wire.opened)

/-- Make a connection, unless the service is stopped. -/
def create (b : Bridge) (id : String) (config : ConnectionConfig) (panicsOn : Option String) :
    Except BridgeError Bridge :=
  if b.queues.stopped then .error .serviceStopped
  else
    match Connection.create id config panicsOn with
    | .ok c => .ok { b with roster := b.roster ++ [c] }
    | .error e => .error e

/-- A fresh audio cycle begins and a driver asks for the wire. -/
def startCycle (b : Bridge) (c : Connection) : Connection :=
  { c with
    audio := c.audio.beginCycle
    phase := .dialling b.now (b.network.delay.map Span.nanos)
    wire := { c.wire with faults := b.network.faults } }

/-- What was noted before the cycle began is not reported. -/
def dropNotice (c : Connection) : Connection := { c with overrunNotice := false }

/-- Take up a request to connect. -/
def takeConnect (b : Bridge) (c : Connection) : Connection :=
  if c.isAlive then
    match c.moved .idle .connecting with
    | .ok c => dropNotice (b.startCycle c)
    | .error _ => c
  else c

/-- Take up a request to disconnect. -/
def takeDisconnect (c : Connection) : Connection :=
  if c.isAlive && c.state == .disconnecting then { c with writable := true } else c

/-- Take up a request to write. -/
def takeWrite (c : Connection) : Connection :=
  if c.isAlive then { c with writeQueued := false, writable := c.writable || c.isConnected } else c

/-- One round of the event loop, if a wake-up is stored. -/
def loopRound (b : Bridge) : Bridge :=
  match b.queues.wait with
  | (false, _) => b
  | (true, queues) =>
    let (batch, queues) := queues.drain
    let b := { b with queues }
    let b := batch.connects.foldl (fun b id => b.modify id b.takeConnect) b
    let b := batch.disconnects.foldl (fun b id => b.modify id takeDisconnect) b
    batch.writes.foldl (fun b id => b.modify id takeWrite) b

/-- Let the drivers go on until nothing is ready. -/
def driveAll (b : Bridge) : Bridge := { b with roster := b.roster.map (·.drive b.context) }

/-- Let the loop and the drivers go on until nothing is ready. -/
def settle (b : Bridge) : Bridge := if b.queues.stopped then b else b.loopRound.driveAll

/-- One jump in time. -/
def jump (b : Bridge) (nanos : Nat) : Bridge := { b with now := b.now + nanos }.settle

/-- Cut a length of time into jumps. -/
def jumps (total step : Nat) : List Nat :=
  if step = 0 then [total]
  else
    List.replicate (total / step) step ++ if total % step = 0 then [] else [total % step]

/-- Let time pass in jumps. -/
def advance (b : Bridge) (jumps : List Nat) : Bridge := jumps.foldl jump b

/-- Stop the loop before it takes up what is queued. All drivers are gone, and where nobody will
ever take up a request to connect, nobody waits any longer. -/
def shutdown (b : Bridge) : Bridge :=
  if b.queues.stopped then b
  else
    let (left, queues) := b.queues.stop
    let b := { b with queues }
    let abandon (c : Connection) := if c.isAlive then c.abandonWaits else c
    let b := left.connects.foldl (fun b id => b.modify id abandon) b
    { b with roster := b.roster.map fun c => if c.isDriven then c.driverGone else c }

end Bridge

end VoiceBridge
