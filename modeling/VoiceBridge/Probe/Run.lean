import VoiceBridge.Bridge.Scenario
import VoiceBridge.Probe.Inbox
import VoiceBridge.Probe.Settings

/-!
# Runs of the probe

A run announces the audio, connects, streams the audio at its pace, finishes and waits for the far
end to close; where that takes too long it closes the connection itself. It works on the bridge
through the actions of scenarios alone. The far end is whatever answers frames with arrivals.
-/

namespace VoiceBridge

/-- What a far end sends back when it is sent frames. -/
abbrev FarEndBehaviour (σ : Type) := σ → List OutboundFrame → List Arrival × σ

/-- Why a run fails. -/
inductive RunError where
  /-- The audio cannot be read. -/
  | noInput (path : String)
  | refused (e : BridgeError)
  | fault (f : ProbeFault)
  deriving Repr, DecidableEq

namespace RunError

def message : RunError → String
  | noInput path => "cannot read " ++ path
  | refused e => e.message
  | fault f => f.message

/-- What lies behind it, if there is more to say. -/
def cause? : RunError → Option String
  | noInput _ => some ReadFault.missing.message
  | refused _ => none
  | fault f => f.cause?

end RunError

/-- A probe at work. -/
structure ProbeRun (σ : Type) where
  bridge : Bridge
  /-- The name of its connection. -/
  id : String
  /-- The far end. -/
  far : σ
  /-- The number of events read. -/
  read : Nat := 0
  journal : Journal := {}

namespace ProbeRun

variable {σ : Type}

def connection? (r : ProbeRun σ) : Option Connection := r.bridge.find? r.id

/-- The events that wait to be read. -/
def unread (r : ProbeRun σ) : List EventKind :=
  match r.connection? with
  | some c => c.events.drop r.read
  | none => []

def isConnected (r : ProbeRun σ) : Bool := r.connection?.any (·.isConnected)

/-- Do something with the connection. -/
def call (r : ProbeRun σ) (call : Call) : Except RunError Unit × ProbeRun σ :=
  let (answer, bridge) := r.bridge.act (.call r.id call)
  let result := match answer with
    | .refused e => .error (.refused e)
    | _ => .ok ()
  (result, { r with bridge })

/-- The far end looks at what it was sent and answers. -/
def answered (behaviour : FarEndBehaviour σ) (r : ProbeRun σ) : ProbeRun σ :=
  match r.connection?.filter (·.wire.opened) with
  | none => r
  | some c =>
    let (arrivals, far) := behaviour r.far c.wire.uncollected
    { r with bridge := (r.bridge.collectAll.act (.far r.id (.send arrivals))).2, far }

/-- The loop and the far end go on. -/
def exchange (behaviour : FarEndBehaviour σ) (r : ProbeRun σ) : ProbeRun σ :=
  let r := { r with bridge := r.bridge.settle }.answered behaviour
  { r with bridge := r.bridge.settle }

/-- Time passes. -/
def pause (d : Span) (r : ProbeRun σ) : ProbeRun σ := { r with bridge := r.bridge.jump d.nanos }

/-- Read all events that wait. The answer is the last outcome among them. -/
def readAll (r : ProbeRun σ) : Option TerminalOutcome × ProbeRun σ :=
  let (outcome, journal) := r.journal.reportAll r.unread
  (outcome, { r with journal, read := r.read + r.unread.length })

/-- Read events up to the one that ends the connection. -/
def readToEnd (r : ProbeRun σ) : Option TerminalOutcome × ProbeRun σ :=
  let ((outcome, n), journal) := r.journal.reportToEnd r.unread
  (outcome, { r with journal, read := r.read + n })

/-- The time between two looks. -/
def tick : Span := .ofSecs 1

/-- A number of looks in which more than some length of time passes. -/
def looks (d : Span) : Nat := d.nanos / tick.nanos + 2

/-- Wait for the first event. -/
def awaitFirst (behaviour : FarEndBehaviour σ) :
    (looks : Nat) → ProbeRun σ → Except RunError Unit × ProbeRun σ
  | 0, r => (.error (.fault .noAnswer), r)
  | looks + 1, r =>
    let r := r.exchange behaviour
    match r.unread with
    | e :: _ =>
      let (_, journal) := r.journal.report e
      ((ProbeFault.ofFirst e).mapError .fault, { r with journal, read := r.read + 1 })
    | [] => awaitFirst behaviour looks (r.pause tick)

/-- Stream frames at their pace, reading events in between, until one ends the connection. The
answer is the last outcome read, or else the one given. -/
def streamFrames (behaviour : FarEndBehaviour σ) (frameSpan : Span)
    (outcome : Option TerminalOutcome) (r : ProbeRun σ) :
    List Bytes → Option TerminalOutcome × ProbeRun σ
  | [] => (outcome, r)
  | frame :: rest =>
    if !r.isConnected then (outcome, r)
    else
      let (_, r) := r.call (.audio [frame] none)
      let (later, r) := r.readAll
      let r := (r.pause frameSpan).exchange behaviour
      r.streamFrames behaviour frameSpan (later.or outcome) rest

/-- Wait for the event that ends the connection. -/
def awaitEnd (behaviour : FarEndBehaviour σ) :
    (looks : Nat) → ProbeRun σ → Option TerminalOutcome × ProbeRun σ
  | 0, r => (none, r)
  | looks + 1, r =>
    match (r.exchange behaviour).readToEnd with
    | (some outcome, r) => (some outcome, r)
    | (none, r) => awaitEnd behaviour looks (r.pause tick)

/-- Wait for the latest request to be told of the end. -/
def awaitCompletion (behaviour : FarEndBehaviour σ) :
    (looks : Nat) → ProbeRun σ → Option TerminalOutcome × ProbeRun σ
  | 0, r => (none, r)
  | looks + 1, r =>
    let r := r.exchange behaviour
    match r.connection?.bind (·.waits.getLast?) with
    | some (.resolved outcome) => (some outcome, r)
    | some .abandoned | none => (none, r)
    | some .pending => awaitCompletion behaviour looks (r.pause tick)

/-- Close the connection and wait for its end. -/
def closeDown (behaviour : FarEndBehaviour σ) (service : ServiceConfig) (r : ProbeRun σ) :
    Except RunError TerminalOutcome × ProbeRun σ :=
  match r.call .closeWithCompletion with
  | (.error e, r) => (.error e, r)
  | (.ok (), r) =>
    let (outcome, r) := r.readAll
    let (told, r) := r.awaitCompletion behaviour (looks service.closeTimeout)
    (.ok ((told.or outcome).getD .dropped), r)

/-- Finish and wait for the far end to close. -/
def finishUp (behaviour : FarEndBehaviour σ) (settings : ProbeSettings) (service : ServiceConfig)
    (r : ProbeRun σ) : Except RunError TerminalOutcome × ProbeRun σ :=
  match if r.isConnected then r.call .finish else (.ok (), r) with
  | (.error e, r) => (.error e, r)
  | (.ok (), r) =>
    match r.awaitEnd behaviour settings.waitSecs with
    | (some outcome, r) => (.ok outcome, r)
    | (none, r) => r.closeDown behaviour service

/-- Queue the announcement, if there is to be one, and ask for the wire. -/
def start (settings : ProbeSettings) (r : ProbeRun σ) : Except RunError Unit × ProbeRun σ :=
  let announcement := (settings.stream.startMessage settings.connection.sessionId).json
  match if settings.sendStart then r.call (.text announcement) else (.ok (), r) with
  | (.error e, r) => (.error e, r)
  | (.ok (), r) => r.call .connect

/-- Stream audio over a connection that was asked for, and see it to its end. -/
def carry (behaviour : FarEndBehaviour σ) (settings : ProbeSettings) (service : ServiceConfig)
    (pcm : Bytes) (r : ProbeRun σ) : Except RunError TerminalOutcome × ProbeRun σ :=
  match r.awaitFirst behaviour (looks service.connectTimeout) with
  | (.error e, r) => (.error e, r)
  | (.ok (), r) =>
    let frames := settings.stream.cut pcm
    match r.streamFrames behaviour settings.stream.frameSpan none frames with
    | (some outcome, r) => (.ok outcome, r)
    | (none, r) => r.finishUp behaviour settings service

/-- A whole run, given the audio if it can be read. -/
def run (behaviour : FarEndBehaviour σ) (settings : ProbeSettings) (service : ServiceConfig)
    (pcm : Option Bytes) (r : ProbeRun σ) : Except RunError TerminalOutcome × ProbeRun σ :=
  match pcm with
  | none => (.error (.noInput settings.input), r)
  | some pcm =>
    match r.start settings with
    | (.error e, r) => (.error e, r)
    | (.ok (), r) => r.carry behaviour settings service pcm

end ProbeRun

end VoiceBridge
