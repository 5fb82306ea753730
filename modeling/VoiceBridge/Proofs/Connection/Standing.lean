import VoiceBridge.Bridge.Drive

/-!
# Where a connection stands

The phase of its driver, its state, the outcome recorded and the events delivered belong together:
`Standing` lists the combinations that occur. A connection whose driver has come to its end has
delivered its last event; a driver that the shutdown cut off, or that broke down because the clock
could not tell its deadlines, leaves its connection without one.

The lemmas beside it say what the functions that deliver events and end connections come down to at
such a connection, each in one record of the fields that change. What is logged stays open.
-/

namespace VoiceBridge

/-- Messages, audio and notices, which leave the connection open. -/
def EventKind.isTraffic : EventKind → Bool
  | .message _ | .binary _ | .bufferOverrun => true
  | _ => false

theorem EventKind.outcome?_of_isTraffic {e : EventKind} (h : e.isTraffic = true) :
    e.outcome? = none := by
  cases e <;> first | rfl | cases h

/-- The events of a connection that has been opened and has not ended. -/
def Served (events : List EventKind) : Prop :=
  ∃ traffic, events = .connectSuccess :: traffic ∧ ∀ e ∈ traffic, e.isTraffic = true

theorem Served.start : Served [.connectSuccess] := ⟨[], rfl, by simp⟩

theorem Served.append {events more : List EventKind} (h : Served events)
    (hm : ∀ e ∈ more, e.isTraffic = true) : Served (events ++ more) := by
  obtain ⟨traffic, rfl, ht⟩ := h
  refine ⟨traffic ++ more, rfl, fun e he => ?_⟩
  rcases List.mem_append.mp he with he | he
  · exact ht e he
  · exact hm e he

namespace Connection

/-- The combinations of phase, state, outcome and events that occur. -/
inductive Standing (stopped : Bool) (c : Connection) : Prop
  | fresh (phase : c.phase = .absent) (state : c.state = .idle) (outcome : c.outcome = none)
      (events : c.events = [])
  | dialling {since : Nat} {delay : Option Nat} (running : stopped = false)
      (phase : c.phase = .dialling since delay) (state : c.state = .connecting)
      (outcome : c.outcome = none) (events : c.events = [])
  | connected {s : Session} (running : stopped = false) (phase : c.phase = .live s)
      (state : c.state = .connected) (outcome : c.outcome = none) (events : Served c.events)
      (closeSent : s.closeSent = false)
  | disconnecting {s : Session} (running : stopped = false) (phase : c.phase = .live s)
      (state : c.state = .disconnecting) (outcome : c.outcome = none) (events : Served c.events)
  | failed {reason : String} (phase : c.phase = .over) (state : c.state = .failed)
      (outcome : c.outcome = some .failed) (events : c.events = [.connectFail reason])
  | dropped {before : List EventKind} (phase : c.phase = .over)
      (state : c.state = .disconnected ∨ c.state = .failed) (outcome : c.outcome = some .dropped)
      (events : c.events = before ++ [.connectionDropped]) (served : Served before)
  | closed {before : List EventKind} (phase : c.phase = .over) (state : c.state = .disconnected)
      (outcome : c.outcome = some .closedGracefully)
      (events : c.events = before ++ [.connectionClosedGracefully]) (served : Served before)
  /-- The service was stopped while the wire was being opened. -/
  | cutDialling (stopped : stopped = true) (phase : c.phase = .over) (state : c.state = .connecting)
      (outcome : c.outcome = none) (events : c.events = [])
  /-- The service was stopped while the wire was open, or the driver broke down. -/
  | cutLive (phase : c.phase = .over)
      (state : c.state = .connected ∨ c.state = .disconnecting) (outcome : c.outcome = none)
      (events : Served c.events)

/-- A connection whose driver is at work has not ended. -/
theorem Standing.outcome_of_isDriven {stopped : Bool} {c : Connection} (h : c.Standing stopped)
    (hd : c.isDriven = true) : c.outcome = none := by
  unfold isDriven at hd
  cases h <;> simp_all

/-- Drivers are at work only while the service runs. -/
theorem Standing.running_of_isDriven {stopped : Bool} {c : Connection} (h : c.Standing stopped)
    (hd : c.isDriven = true) : stopped = false := by
  unfold isDriven at hd
  cases h <;> simp_all

theorem Standing.of_idle {stopped : Bool} {c : Connection} (h : c.Standing stopped)
    (hs : c.state = .idle) : c.phase = .absent ∧ c.outcome = none ∧ c.events = [] := by
  cases h <;> simp_all

theorem Standing.undriven_of_idle {stopped : Bool} {c : Connection} (h : c.Standing stopped)
    (hs : c.state = .idle) : c.isDriven = false := by
  simp [isDriven, (h.of_idle hs).1]

/-- The request for a connection that has a driver has been taken up. -/
theorem Standing.begun_of_isDriven {stopped : Bool} {c : Connection} (h : c.Standing stopped)
    (hd : c.isDriven = true) : c.state ≠ .idle := by
  intro hs
  rw [h.undriven_of_idle hs] at hd
  cases hd

theorem Standing.state_of_dialling {stopped : Bool} {c : Connection} {since : Nat}
    {delay : Option Nat} (h : c.Standing stopped) (hp : c.phase = .dialling since delay) :
    c.state = .connecting := by
  cases h <;> simp_all

/-- Nothing is delivered before the wire is open. -/
theorem Standing.events_of_connecting {stopped : Bool} {c : Connection} (h : c.Standing stopped)
    (hs : c.state = .connecting) : c.events = [] := by
  cases h <;> simp_all

theorem Standing.state_of_live {stopped : Bool} {c : Connection} {s : Session}
    (h : c.Standing stopped) (hp : c.phase = .live s) :
    c.state = .connected ∨ c.state = .disconnecting := by
  cases h <;> simp_all

theorem Standing.served_of_live {stopped : Bool} {c : Connection} {s : Session}
    (h : c.Standing stopped) (hp : c.phase = .live s) : Served c.events := by
  cases h <;> simp_all

/-- The far end is told of the close only on a closing connection. -/
theorem Standing.closeSent_of_connected {stopped : Bool} {c : Connection} {s : Session}
    (h : c.Standing stopped) (hp : c.phase = .live s) (hc : c.state = .connected) :
    s.closeSent = false := by
  cases h <;> simp_all

/-- The driver of a connection in one of these states has an open wire. -/
theorem Standing.live_of_state {stopped : Bool} {c : Connection} (h : c.Standing stopped)
    (hs : c.state = .connected ∨ c.state = .disconnecting) (hd : c.isDriven = true) :
    ∃ s, c.phase = .live s := by
  unfold isDriven at hd
  rcases hs with hs | hs <;> cases h <;> simp_all

/-- Whoever was begun and is not over has a driver. -/
theorem Standing.isDriven_of_not_over {stopped : Bool} {c : Connection} (h : c.Standing stopped)
    (hbegun : c.state ≠ .idle) (hover : c.phase ≠ .over) : c.isDriven = true := by
  unfold isDriven
  cases h <;> simp_all

/-! ### Delivering events -/

theorem notify_eq (c : Connection) (e : EventKind) :
    ∃ log, c.notify e = { c with events := c.events ++ [e], log } := by
  unfold notify logged
  dsimp only
  split
  · exact ⟨_, rfl⟩
  · exact ⟨c.log, rfl⟩

/-- An event that leaves the connection open is only noted. -/
theorem emit_of_traffic {c : Connection} {e : EventKind} (h : c.outcome = none)
    (he : e.outcome? = none) : ∃ log, c.emit e = { c with events := c.events ++ [e], log } := by
  have hemit : c.emit e = c.notify e := by simp [emit, h, he]
  rw [hemit]
  exact notify_eq c e

/-- The event that ends the connection is noted with its outcome, which all who wait are told. -/
theorem emit_of_terminal {c : Connection} {e : EventKind} {o : TerminalOutcome}
    (h : c.outcome = none) (he : e.outcome? = some o) :
    ∃ log, c.emit e = { c with
      events := c.events ++ [e], outcome := some o, waits := (c.resolveWaits o).waits, log } := by
  have hemit : c.emit e = ({ c with outcome := some o }.notify e).resolveWaits o := by
    simp [emit, h, he]
  obtain ⟨log, hn⟩ := notify_eq { c with outcome := some o } e
  rw [hemit, hn]
  exact ⟨log, rfl⟩

/-- The connection after its last event. -/
def finished (c : Connection) (final : ConnectionState) (last : EventKind) (o : TerminalOutcome)
    (log : List LogLine) : Connection :=
  { c with
    state := final, events := c.events ++ [last], outcome := some o
    waits := (c.resolveWaits o).waits, phase := .over, log }

/-- Nobody is left to be let go once all have been told. -/
theorem abandonWaits_resolveWaits (c : Connection) (o : TerminalOutcome) :
    (c.resolveWaits o).abandonWaits = c.resolveWaits o := by
  unfold abandonWaits resolveWaits
  simp only [List.map_map]
  congr 2
  funext w
  by_cases h : w = .pending <;> simp [h]

theorem driverGone_emit {c : Connection} {e : EventKind} {o : TerminalOutcome}
    (h : c.outcome = none) (he : e.outcome? = some o) :
    ∃ log, (c.emit e).driverGone = c.finished c.state e o log := by
  obtain ⟨log, hemit⟩ := emit_of_terminal h he
  refine ⟨log, ?_⟩
  have hwaits := congrArg Connection.waits (abandonWaits_resolveWaits c o)
  rw [hemit, driverGone, finished]
  unfold abandonWaits at hwaits ⊢
  dsimp only at hwaits ⊢
  rw [hwaits]

/-! ### Moves between states -/

theorem moved_eq {c : Connection} {source target : ConnectionState} (hs : c.state = source)
    (h : source.canBecome target = true) : c.moved source target = .ok { c with state := target } := by
  rw [moved, ConnectionState.transition_eq_ok_iff.mpr ⟨h, hs, rfl⟩]

theorem beginDisconnect_eq {c : Connection} (hs : c.state = .connected) :
    c.beginDisconnect = (true, { c with state := .disconnecting }) := by
  rw [beginDisconnect, moved_eq hs rfl]

/-! ### Endings -/

theorem connectFailed_eq {c : Connection} (h : c.outcome = none) (hs : c.state = .connecting)
    (e : LinkError) :
    ∃ log, c.connectFailed e = c.finished .failed (.connectFail e.message) .failed log := by
  unfold connectFailed
  dsimp only
  rw [moved_eq (c := c.warned e.message) hs rfl]
  exact driverGone_emit (c := { c.warned e.message with state := .failed }) h rfl

theorem endedBy_eq {c : Connection} {e : Ending} {final : ConnectionState} {last : EventKind}
    {o : TerminalOutcome} (h : c.outcome = none)
    (hv : e.verdict? c.graceful c.state = some (final, last))
    (hm : c.state.canBecome final = true) (ho : last.outcome? = some o) (ctx : LoopContext) :
    ∃ log, c.endedBy ctx e = c.finished final last o log := by
  unfold endedBy
  rw [hv]
  dsimp only
  rw [moved_eq rfl hm]
  cases e.remark? ctx.config with
  | none => exact driverGone_emit (c := { c with state := final }) h ho
  | some text => exact driverGone_emit (c := { c with state := final }.warned text) h ho

end Connection

namespace Ending

/-- The table has a verdict on every open connection, with a final state that can be reached and an
event that is the last one. -/
theorem exists_verdict (e : Ending) (graceful : Bool) {state : ConnectionState}
    (hs : state = .connected ∨ state = .disconnecting) :
    ∃ final last o, e.verdict? graceful state = some (final, last) ∧
      state.canBecome final = true ∧ last.outcome? = some o := by
  rcases hs with rfl | rfl
  · cases e <;> cases graceful <;> exact ⟨_, _, _, rfl, rfl, rfl⟩
  · exact ⟨_, _, _, rfl, rfl, rfl⟩

end Ending

end VoiceBridge
