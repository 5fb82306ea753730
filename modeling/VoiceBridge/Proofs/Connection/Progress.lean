import VoiceBridge.Proofs.Connection.Standing

/-!
# What one step of a driver does

`Progress ctx c c'` lists what a driver can make of its connection in one step, each case with the
fields that change and the condition under which it comes up. Every step of a connection in good
standing is one of these (`progress_of_step`), so that what holds of a run can be shown case by case,
without going back to the functions that make up the step.

The driver may take its steps in any order: none of the cases asks that what comes first in the order of
`step?` has been done.

Sending has two outcomes. `Attempt` says what the driver sets out to send, how the connection stands
before the attempt and how it goes on after a success.
-/

namespace VoiceBridge

/-- What a driver keeps from the moment its wire is open. -/
def Session.begin (ctx : LoopContext) (config : ConnectionConfig) : Session := {
  assembly := { limits := config.limits }
  lastHeard := ctx.now
  ping := (config.profile.keepaliveInterval ctx.config.keepalive).map fun p =>
    { period := p.nanos, next := ctx.now + p.nanos } }

/-- A driver that can reckon its deadlines leaves some time between its pings. -/
theorem Session.period_of_inReach {ctx : LoopContext} {s : Session} (h : s.inReach ctx = true)
    {p : PingTimer} (hp : s.ping = some p) : 0 < p.period ∧ p.next < clockEnd := by
  simp only [Session.inReach, hp, Option.all_some, PingTimer.inReach, Bool.and_eq_true,
    decide_eq_true_eq] at h
  exact h.2

/-- The wire after a frame went out. -/
def Wire.sending (net : Network) (w : Wire) (f : OutboundFrame) : Wire :=
  { w with sent := w.sent ++ [f], inbound := w.inbound ++ Wire.echo net f }

/-- The ending that an arrival brings about, if it is one. -/
def Arrival.ending? : Arrival → Option Ending
  | .fragment _ | .heartbeat => none
  | .closed _ _ => some .remoteClose
  | .failed e => some (.lost e.message)
  | .ended => some (.lost "connection reset without close frame")

/-- What a whole message delivers. -/
def Message.events (bidirectional : Bool) (m : Message) : List EventKind :=
  match m.kind with
  | .text =>
    match Text.ofUtf8? m.payload with
    | some text => [.message text]
    | none => []
  | .binary => if bidirectional then [.binary m.payload] else []

/-- What a fragment delivers, given what the reassembly makes of it. -/
def PushOutcome.events (bidirectional : Bool) : PushOutcome → List EventKind
  | .complete m => m.events bidirectional
  | .incomplete | .oversized _ | .skipped => []

namespace Connection

/-- The notice of an overrun that a writable turn delivers first. -/
def notices (c : Connection) : List EventKind :=
  if c.isConnected && c.overrunNotice then [.bufferOverrun] else []

/-- A connection in a writable turn, its notice delivered. -/
def turned (c : Connection) (phase : Phase) (outbox : List OutboundFrame) (audio : AudioBuffer)
    (writable : Bool) (log : List LogLine) : Connection :=
  { c with
    phase, outbox, audio, writable, log
    overrunNotice := c.overrunNotice && !c.isConnected, events := c.events ++ c.notices }

/-- What a driver sets out to send: the frame, the connection before the attempt and, but for the
wire, the connection after a success. -/
inductive Attempt (ctx : LoopContext) (c : Connection) (s : Session) :
    OutboundFrame → Connection → Connection → Prop
  | text {f : OutboundFrame} {rest : List OutboundFrame} (log : List LogLine)
      (writable : c.writable = true) (closeSent : s.closeSent = false) (outbox : c.outbox = f :: rest) :
      Attempt ctx c s f (c.turned c.phase rest c.audio false log)
        (c.turned c.phase rest c.audio
          (!rest.isEmpty || c.audio.hasPending || c.state == .disconnecting) log)
  | close (log : List LogLine)
      (writable : c.writable = true) (closeSent : s.closeSent = false) (outbox : c.outbox = [])
      (state : c.state = .disconnecting) :
      Attempt ctx c s .close (c.turned c.phase [] c.audio.reset false log)
        (c.turned (.live { s with
          closeSent := true, closeDeadline := some (ctx.now + ctx.config.closeTimeout.nanos) })
          [] c.audio.reset false log)
  | audio (log : List LogLine)
      (writable : c.writable = true) (closeSent : s.closeSent = false) (outbox : c.outbox = [])
      (state : c.state = .connected) (pending : c.audio.hasPending = true) :
      Attempt ctx c s (.binary c.audio.pending) (c.turned c.phase [] c.audio.reset false log)
        (c.turned c.phase [] c.audio.reset false log)
  | ping {p : PingTimer} (closeSent : s.closeSent = false) (timer : s.ping = some p)
      (due : p.next < ctx.now) (period : 0 < p.period) :
      Attempt ctx c s (.ping []) { c with phase := .live { s with ping := some (p.ticked ctx.now) } }
        { c with phase := .live { s with ping := some (p.ticked ctx.now) } }

/-- What a driver can make of its connection in one step. -/
inductive Progress (ctx : LoopContext) (c : Connection) : Connection → Prop
  /-- The wire could not be opened. -/
  | refused {since : Nat} {delay : Option Nat} (e : LinkError) (log : List LogLine)
      (phase : c.phase = .dialling since delay) :
      Progress ctx c (c.finished .failed (.connectFail e.message) .failed log)
  | opened {since : Nat} {delay : Option Nat} (log : List LogLine)
      (phase : c.phase = .dialling since delay) :
      Progress ctx c { c with
        state := if c.closeAfterConnect then .disconnecting else .connected
        phase := .live (.begin ctx c.config), wire := { c.wire with opened := true }
        events := c.events ++ [.connectSuccess]
        writable := c.writable || c.closeAfterConnect || c.hasOutboundWork, log }
  /-- A turn after the close frame. -/
  | spent {s : Session} (phase : c.phase = .live s) (writable : c.writable = true)
      (closeSent : s.closeSent = true) : Progress ctx c { c with writable := false }
  /-- A turn with nothing to send. -/
  | quiet {s : Session} (log : List LogLine) (phase : c.phase = .live s)
      (writable : c.writable = true) (closeSent : s.closeSent = false) (outbox : c.outbox = [])
      (state : c.state = .connected) (pending : c.audio.hasPending = false) :
      Progress ctx c (c.turned c.phase [] c.audio false log)
  | sent {s : Session} {f : OutboundFrame} {before after : Connection} (log : List LogLine)
      (phase : c.phase = .live s) (attempt : Attempt ctx c s f before after)
      (sound : c.wire.sendFault? = none) :
      Progress ctx c { after with wire := c.wire.sending ctx.network f, log }
  /-- A send failed, and with it the connection. -/
  | lost {s : Session} {f : OutboundFrame} {before after : Connection} {reason : String}
      {final : ConnectionState} {last : EventKind} {o : TerminalOutcome} (log : List LogLine)
      (phase : c.phase = .live s) (attempt : Attempt ctx c s f before after)
      (fault : c.wire.sendFault? = some reason)
      (verdict : (Ending.lost (LinkError.send reason).message).verdict? c.graceful c.state =
        some (final, last))
      (outcome : last.outcome? = some o) : Progress ctx c (before.finished final last o log)
  /-- A closing connection takes in nothing more. -/
  | discarded {s : Session} {f : Fragment} {rest : List Arrival} (phase : c.phase = .live s)
      (inbound : c.wire.inbound = .fragment f :: rest) (state : c.state = .disconnecting) :
      Progress ctx c { c with
        wire := { c.wire with inbound := rest }
        phase := .live { s with lastHeard := ctx.now, assembly := s.assembly.clear } }
  | taken {s : Session} {f : Fragment} {rest : List Arrival} (log : List LogLine)
      (phase : c.phase = .live s) (inbound : c.wire.inbound = .fragment f :: rest)
      (state : c.state = .connected) :
      Progress ctx c { c with
        wire := { c.wire with inbound := rest }
        phase := .live { s with lastHeard := ctx.now, assembly := (s.assembly.push f).2 }
        events := c.events ++ (s.assembly.push f).1.events c.config.profile.bidirectional, log }
  | heard {s : Session} {rest : List Arrival} (phase : c.phase = .live s)
      (inbound : c.wire.inbound = .heartbeat :: rest) :
      Progress ctx c { c with
        wire := { c.wire with inbound := rest }, phase := .live { s with lastHeard := ctx.now } }
  /-- An arrival ended the connection. -/
  | ended {s : Session} {a : Arrival} {rest : List Arrival} {e : Ending} {final : ConnectionState}
      {last : EventKind} {o : TerminalOutcome} (log : List LogLine) (phase : c.phase = .live s)
      (inbound : c.wire.inbound = a :: rest)
      (ending : a.ending? = some e) (verdict : e.verdict? c.graceful c.state = some (final, last))
      (outcome : last.outcome? = some o) :
      Progress ctx c ({ c with wire := { c.wire with inbound := rest } }.finished final last o log)
  /-- A timer ended the connection. -/
  | expired {s : Session} {e : Ending} {final : ConnectionState} {last : EventKind}
      {o : TerminalOutcome} (log : List LogLine) (phase : c.phase = .live s)
      (cause : e = .silence ∧ s.ping.isSome ∧
          s.lastHeard + ctx.config.pongTimeout.nanos < ctx.now ∨
        e = .noCloseReply ∧ ∃ deadline, s.closeDeadline = some deadline ∧ deadline < ctx.now)
      (verdict : e.verdict? c.graceful c.state = some (final, last))
      (outcome : last.outcome? = some o) : Progress ctx c (c.finished final last o log)
  /-- The clock cannot tell what the driver has to wait for. -/
  | broken {s : Session} (phase : c.phase = .live s)
      (cause : s.inReach ctx = false ∨
        ∃ p, s.ping = some p ∧ p.next < ctx.now ∧ clockEnd ≤ (p.ticked ctx.now).next) :
      Progress ctx c c.driverGone

/-! ### The parts of a step -/

/-- The notice that a turn delivers first that found the connection in some state. -/
theorem reportOverrun_eq {c : Connection} (h : c.outcome = none) (found : ConnectionState) :
    ∃ log, c.reportOverrun found = { c with
      overrunNotice := c.overrunNotice && !(found == .connected)
      events := c.events ++ if found == .connected && c.overrunNotice then [.bufferOverrun] else []
      log } := by
  unfold reportOverrun
  by_cases hn : (found == .connected && c.overrunNotice) = true
  · obtain ⟨log, hemit⟩ := emit_of_traffic (e := .bufferOverrun)
      (c := { c with overrunNotice := false }) h rfl
    refine ⟨log, ?_⟩
    rw [if_pos hn, hemit, if_pos hn, (Bool.and_eq_true_iff.mp hn).1, Bool.not_true, Bool.and_false]
  · have hnotice : (c.overrunNotice && !(found == .connected)) = c.overrunNotice := by
      cases ho : c.overrunNotice <;> simp_all
    refine ⟨c.log, ?_⟩
    rw [if_neg hn, if_neg hn, hnotice, List.append_nil]

/-- A frame is sent unless the wire has a fault. -/
theorem transmit_eq (net : Network) (c : Connection) (f : OutboundFrame) :
    (∃ reason, c.wire.sendFault? = some reason ∧ c.transmit net f = (some (.send reason), c)) ∨
      (c.wire.sendFault? = none ∧
        ∃ log, c.transmit net f = (none, { c with wire := c.wire.sending net f, log })) := by
  unfold transmit Wire.send
  cases hf : c.wire.sendFault? with
  | some reason => exact .inl ⟨reason, rfl, rfl⟩
  | none =>
    refine .inr ⟨rfl, ?_⟩
    dsimp only
    split <;> split <;> exact ⟨_, rfl⟩

/-- How an attempt to send turns out. -/
def Outcome (net : Network) (w : Wire) (f : OutboundFrame) (before after : Connection)
    (r : Option LinkError × Connection) : Prop :=
  (∃ reason, w.sendFault? = some reason ∧ r = (some (.send reason), before)) ∨
    (w.sendFault? = none ∧ ∃ log, r = (none, { after with wire := w.sending net f, log }))

theorem outcome_sendText (ctx : LoopContext) (c : Connection) (f : OutboundFrame) :
    Outcome ctx.network c.wire f c
      { c with
        writable := c.writable ||
          (!c.outbox.isEmpty || c.audio.hasPending || c.state == .disconnecting) }
      (c.sendText ctx f) := by
  unfold sendText
  rcases transmit_eq ctx.network c f with ⟨reason, hf, ht⟩ | ⟨hf, log, ht⟩
  · rw [ht]
    exact .inl ⟨reason, hf, rfl⟩
  · rw [ht]
    exact .inr ⟨hf, log, rfl⟩

theorem outcome_sendClose (ctx : LoopContext) (s : Session) (c : Connection) :
    Outcome ctx.network c.wire .close { c with audio := c.audio.reset }
      { c with
        audio := c.audio.reset
        phase := .live { s with
          closeSent := true, closeDeadline := some (ctx.now + ctx.config.closeTimeout.nanos) } }
      (c.sendClose ctx s) := by
  unfold sendClose
  rcases transmit_eq ctx.network { c with audio := c.audio.reset } .close with
    ⟨reason, hf, ht⟩ | ⟨hf, log, ht⟩
  · rw [ht]
    exact .inl ⟨reason, hf, rfl⟩
  · rw [ht]
    exact .inr ⟨hf, log, rfl⟩

theorem outcome_sendAudio (ctx : LoopContext) {c : Connection} (h : c.audio.hasPending = true) :
    Outcome ctx.network c.wire (.binary c.audio.pending) { c with audio := c.audio.reset }
      { c with audio := c.audio.reset } (c.sendAudio ctx) := by
  unfold sendAudio AudioBuffer.takePending
  rw [if_pos h]
  rcases transmit_eq ctx.network { c with audio := c.audio.reset } (.binary c.audio.pending) with
    ⟨reason, hf, ht⟩ | ⟨hf, log, ht⟩
  · exact .inl ⟨reason, hf, ht⟩
  · exact .inr ⟨hf, log, ht⟩

/-- A driver goes on after a success, and a failure ends its connection. -/
theorem afterSend_cases {ctx : LoopContext} {w : Wire} {f : OutboundFrame} {before after : Connection}
    {r : Option LinkError × Connection} (hs : before.state = .connected ∨ before.state = .disconnecting)
    (ho : before.outcome = none) (hr : Outcome ctx.network w f before after r) :
    (w.sendFault? = none ∧
      ∃ log, afterSend ctx r = { after with wire := w.sending ctx.network f, log }) ∨
    ∃ reason final last o log, w.sendFault? = some reason ∧
      (Ending.lost (LinkError.send reason).message).verdict? before.graceful before.state =
        some (final, last) ∧
      last.outcome? = some o ∧ afterSend ctx r = before.finished final last o log := by
  rcases hr with ⟨reason, hfault, rfl⟩ | ⟨hfault, log, rfl⟩
  · obtain ⟨final, last, o, hv, hm, hlast⟩ :=
      Ending.exists_verdict (.lost (LinkError.send reason).message) before.graceful hs
    obtain ⟨log, hend⟩ := endedBy_eq ho hv hm hlast ctx
    exact .inr ⟨reason, final, last, o, log, hfault, hv, hlast, hend⟩
  · exact .inl ⟨hfault, log, rfl⟩

/-- The same of an attempt, whose failure is judged by the connection as it was. -/
theorem afterSend_eq {ctx : LoopContext} {c : Connection} {s : Session} {f : OutboundFrame}
    {before after : Connection} {r : Option LinkError × Connection}
    (hs : c.state = .connected ∨ c.state = .disconnecting) (ho : c.outcome = none)
    (ha : Attempt ctx c s f before after) (hr : Outcome ctx.network c.wire f before after r) :
    (c.wire.sendFault? = none ∧
      ∃ log, afterSend ctx r = { after with wire := c.wire.sending ctx.network f, log }) ∨
    ∃ reason final last o log, c.wire.sendFault? = some reason ∧
      (Ending.lost (LinkError.send reason).message).verdict? c.graceful c.state = some (final, last) ∧
      last.outcome? = some o ∧ afterSend ctx r = before.finished final last o log := by
  have hstate : before.state = c.state := by cases ha <;> rfl
  have hgraceful : before.graceful = c.graceful := by cases ha <;> rfl
  have houtcome : before.outcome = none := by cases ha <;> exact ho
  rw [← hstate, ← hgraceful]
  exact afterSend_cases (hstate ▸ hs) houtcome hr

/-- What becomes of a connection that sets out to send a frame. -/
theorem progress_of_attempt {ctx : LoopContext} {c : Connection} {s : Session} {f : OutboundFrame}
    {before after : Connection} {r : Option LinkError × Connection} (hp : c.phase = .live s)
    (hs : c.state = .connected ∨ c.state = .disconnecting) (ho : c.outcome = none)
    (ha : Attempt ctx c s f before after) (hr : Outcome ctx.network c.wire f before after r) :
    Progress ctx c (afterSend ctx r) := by
  rcases afterSend_eq hs ho ha hr with
    ⟨hsound, log, heq⟩ | ⟨_, _, _, _, log, hfault, hverdict, hlast, heq⟩
  · rw [heq]
    exact .sent log hp ha hsound
  · rw [heq]
    exact .lost log hp ha hfault hverdict hlast

/-- The frame that the driver sets out to send in its writable turn. -/
def aim? (c : Connection) : Option OutboundFrame :=
  match c.phase with
  | .live s =>
    if s.closeSent || !c.writable then none
    else
      match c.outbox with
      | f :: _ => some f
      | [] =>
        if c.state = .disconnecting then some .close
        else if c.audio.hasPending then some (.binary c.audio.pending) else none
  | .absent | .dialling .. | .over => none

/-- A turn comes after the close frame, has nothing to send or sets out to send its frame. -/
theorem turn_cases (ctx : LoopContext) {c : Connection} {s : Session}
    (hp : c.phase = .live s) (hs : c.state = .connected ∨ c.state = .disconnecting)
    (ho : c.outcome = none) (hw : c.writable = true) :
    (s.closeSent = true ∧ c.turn ctx s = (none, { c with writable := false })) ∨
    (s.closeSent = false ∧ c.outbox = [] ∧ c.state = .connected ∧ c.audio.hasPending = false ∧
      ∃ log, c.turn ctx s = (none, c.turned c.phase [] c.audio false log)) ∨
    ∃ f before after, c.aim? = some f ∧ Attempt ctx c s f before after ∧
      Outcome ctx.network c.wire f before after (c.turn ctx s) := by
  obtain ⟨log, hreport⟩ := reportOverrun_eq (c := { c with writable := false }) ho c.state
  change _ = c.turned c.phase c.outbox c.audio false log at hreport
  cases hc : s.closeSent with
  | true => exact .inl ⟨rfl, by simp [turn, hc]⟩
  | false =>
    have hopen : ¬(s.closeSent || !(c.state == .connected || c.state == .disconnecting)) = true := by
      rcases hs with hs | hs <;> simp [hc, hs]
    have hturn : c.turn ctx s = (c.turned c.phase c.outbox.tail c.audio false log).sendNext ctx s
        c.state c.outbox.head? := by
      unfold turn
      dsimp only
      rw [if_neg hopen, hreport]
      rfl
    rw [hturn]
    refine .inr ?_
    cases hout : c.outbox with
    | cons f rest =>
      have haim : c.aim? = some f := by simp [aim?, hp, hw, hc, hout]
      have hsend := outcome_sendText ctx (c.turned c.phase rest c.audio false log) f
      exact .inr ⟨f, _, _, haim, .text log hw hc hout, hsend⟩
    | nil =>
      by_cases hclosing : c.state = .disconnecting
      · have haim : c.aim? = some .close := by simp [aim?, hp, hw, hc, hout, hclosing]
        have hsend := outcome_sendClose ctx s (c.turned c.phase [] c.audio false log)
        unfold sendNext
        dsimp only [List.head?, List.tail]
        rw [if_pos hclosing]
        exact .inr ⟨.close, _, _, haim, .close log hw hc hout hclosing, hsend⟩
      · have hconn : c.state = .connected := hs.resolve_right hclosing
        unfold sendNext
        dsimp only [List.head?, List.tail]
        rw [if_neg hclosing]
        cases hpend : c.audio.hasPending with
        | true =>
          have haim : c.aim? = some (.binary c.audio.pending) := by
            simp [aim?, hp, hw, hc, hout, hconn, hpend]
          have hsend := outcome_sendAudio ctx (c := c.turned c.phase [] c.audio false log) hpend
          exact .inr ⟨_, _, _, haim, .audio log hw hc hout hconn hpend, hsend⟩
        | false =>
          refine .inl ⟨rfl, rfl, hconn, rfl, log, ?_⟩
          simp [sendAudio, AudioBuffer.takePending, turned, hpend]

theorem progress_of_turn {ctx : LoopContext} {c : Connection} {s : Session}
    (hp : c.phase = .live s) (hs : c.state = .connected ∨ c.state = .disconnecting)
    (ho : c.outcome = none) (hw : c.writable = true) :
    Progress ctx c (afterSend ctx (c.turn ctx s)) := by
  rcases turn_cases ctx hp hs ho hw with
    ⟨hc, hturn⟩ | ⟨hc, hout, hconn, hpend, log, hturn⟩ | ⟨f, before, after, _, hattempt, hsend⟩
  · rw [hturn]
    exact .spent hp hw hc
  · rw [hturn]
    exact .quiet log hp hw hc hout hconn hpend
  · exact progress_of_attempt hp hs ho hattempt hsend

theorem deliverMessage_eq {c : Connection} (h : c.outcome = none) (m : Message) :
    ∃ log, c.deliverMessage m = { c with
      events := c.events ++ m.events c.config.profile.bidirectional, log } := by
  unfold deliverMessage Message.events
  cases m.kind with
  | text =>
    cases Text.ofUtf8? m.payload with
    | some text => exact emit_of_traffic h rfl
    | none => exact ⟨_, by rw [List.append_nil]; rfl⟩
  | binary =>
    dsimp only
    split
    · exact emit_of_traffic h rfl
    · exact ⟨c.log, by rw [List.append_nil]⟩

theorem noteInterrupted_eq (c : Connection) (a : Assembly) (f : Fragment) :
    ∃ log, c.noteInterrupted a f = { c with log } := by
  unfold noteInterrupted
  split
  · exact ⟨_, rfl⟩
  · exact ⟨c.log, rfl⟩

theorem pushFragment_eq {c : Connection} (h : c.outcome = none) (s : Session) (f : Fragment) :
    ∃ log, c.pushFragment s f = { c with
      phase := .live { s with assembly := (s.assembly.push f).2 }
      events := c.events ++ (s.assembly.push f).1.events c.config.profile.bidirectional, log } := by
  obtain ⟨log, hnote⟩ := noteInterrupted_eq c s.assembly f
  unfold pushFragment
  rw [hnote]
  dsimp only
  cases (s.assembly.push f).1 with
  | complete m =>
    exact deliverMessage_eq
      (c := { c with log, phase := .live { s with assembly := (s.assembly.push f).2 } }) h m
  | oversized received => exact ⟨_, by rw [PushOutcome.events, List.append_nil]; rfl⟩
  | incomplete => exact ⟨log, by rw [PushOutcome.events, List.append_nil]⟩
  | skipped => exact ⟨log, by rw [PushOutcome.events, List.append_nil]⟩

theorem progress_of_takeIn {ctx : LoopContext} {c : Connection} {s : Session} {a : Arrival}
    {rest : List Arrival} (hp : c.phase = .live s)
    (hs : c.state = .connected ∨ c.state = .disconnecting) (ho : c.outcome = none)
    (hin : c.wire.inbound = a :: rest) :
    Progress ctx c ({ c with wire := { c.wire with inbound := rest } }.takeIn ctx s a) := by
  have hend : ∀ e, a.ending? = some e →
      Progress ctx c ({ c with wire := { c.wire with inbound := rest } }.endedBy ctx e) := by
    intro e he
    obtain ⟨final, last, o, hv, hm, hlast⟩ := e.exists_verdict c.graceful hs
    obtain ⟨log, hended⟩ := endedBy_eq (c := { c with wire := { c.wire with inbound := rest } })
      ho hv hm hlast ctx
    rw [hended]
    exact .ended log hp hin he hv hlast
  cases a with
  | fragment f =>
    by_cases hd : c.state = .disconnecting
    · have hdrop : ∀ s : Session,
          { c with wire := { c.wire with inbound := rest } }.takeFragment s f =
            { c with
              wire := { c.wire with inbound := rest }
              phase := .live { s with assembly := s.assembly.clear } } :=
        fun s => if_pos hd
      rw [takeIn, hdrop]
      exact .discarded (s := s) hp hin hd
    · have hconn : c.state = .connected := hs.resolve_right hd
      obtain ⟨log, htake⟩ := pushFragment_eq (c := { c with wire := { c.wire with inbound := rest } })
        ho { s with lastHeard := ctx.now } f
      rw [takeIn, takeFragment, if_neg hd, htake]
      exact .taken (s := s) log hp hin hconn
  | heartbeat => exact .heard hp hin
  | closed code reason => exact hend .remoteClose rfl
  | failed e => exact hend (.lost e.message) rfl
  | ended => exact hend _ rfl

theorem progress_of_expiry {ctx : LoopContext} {c : Connection} {s : Session} {e : Ending}
    (hp : c.phase = .live s) (hs : c.state = .connected ∨ c.state = .disconnecting)
    (ho : c.outcome = none)
    (he : e = .silence ∧ s.ping.isSome ∧ s.lastHeard + ctx.config.pongTimeout.nanos < ctx.now ∨
      e = .noCloseReply ∧ ∃ deadline, s.closeDeadline = some deadline ∧ deadline < ctx.now) :
    Progress ctx c (c.endedBy ctx e) := by
  obtain ⟨final, last, o, hv, hm, hlast⟩ := e.exists_verdict c.graceful hs
  obtain ⟨log, hended⟩ := endedBy_eq ho hv hm hlast ctx
  rw [hended]
  exact .expired log hp he hv hlast

theorem progress_of_sendPing {ctx : LoopContext} {c : Connection} {s : Session} {p : PingTimer}
    (hp : c.phase = .live s) (hs : c.state = .connected ∨ c.state = .disconnecting)
    (ho : c.outcome = none) (hreach : s.inReach ctx = true) (hsent : s.closeSent = false)
    (hping : s.ping = some p) (hdue : p.next < ctx.now) : Progress ctx c (c.sendPing ctx s p) := by
  have hperiod := (s.period_of_inReach hreach hping).1
  unfold sendPing
  dsimp only
  split
  · exact progress_of_attempt hp hs ho (.ping hsent hping hdue hperiod)
      (transmit_eq ctx.network { c with phase := .live { s with ping := some (p.ticked ctx.now) } } _)
  · rename_i hlate
    exact .broken hp (.inr ⟨p, hping, hdue, Nat.le_of_not_lt hlate⟩)

theorem progress_of_established {ctx : LoopContext} {c : Connection} {since : Nat}
    {delay : Option Nat} (hp : c.phase = .dialling since delay) (hs : c.state = .connecting)
    (ho : c.outcome = none) : Progress ctx c (c.established ctx) := by
  obtain ⟨log, hemit⟩ := emit_of_traffic (e := .connectSuccess)
    (c := { c with
      state := .connected, phase := .live (.begin ctx c.config)
      wire := { c.wire with opened := true } }) ho rfl
  have hopened : Progress ctx c _ := Progress.opened log hp
  unfold Session.begin at hemit
  unfold established
  rw [moved_eq hs rfl]
  dsimp only
  rw [hemit]
  cases hclose : c.closeAfterConnect with
  | true =>
    rw [if_pos rfl, beginDisconnect_eq rfl]
    rw [hclose] at hopened
    exact hopened
  | false =>
    rw [hclose] at hopened
    exact hopened

/-- What a driver makes of its connection when it sees to an open wire. -/
theorem progress_of_attend {ctx : LoopContext} {c c' : Connection} {s : Session} {e : Errand}
    (hp : c.phase = .live s) (hs : c.state = .connected ∨ c.state = .disconnecting)
    (ho : c.outcome = none) (hreach : s.inReach ctx = true) (h : c.attend? ctx s e = some c') :
    Progress ctx c c' := by
  unfold attend? at h
  split at h
  · split at h
    · rename_i hw
      cases h
      exact progress_of_turn hp hs ho hw
    · cases h
  · split at h
    · rename_i a rest hin
      cases h
      exact progress_of_takeIn hp hs ho hin
    · cases h
  · obtain ⟨p, hping, rfl⟩ := Option.map_eq_some_iff.mp h
    rw [Option.filter_eq_some_iff, Bool.and_eq_true, Bool.not_eq_true', decide_eq_true_eq] at hping
    exact progress_of_sendPing hp hs ho hreach hping.2.1 hping.1 hping.2.2
  · split at h
    · rename_i hsilent
      cases h
      exact progress_of_expiry hp hs ho (.inl ⟨rfl, hsilent⟩)
    · cases h
  · split at h
    · rename_i hlate
      cases h
      obtain ⟨deadline, hdeadline, hpast⟩ := (Option.any_eq_true _ _).mp hlate
      exact progress_of_expiry hp hs ho (.inr ⟨rfl, deadline, hdeadline, of_decide_eq_true hpast⟩)
    · cases h
  · cases h

/-- What a driver makes of its connection when it sees to a wire that is being opened. -/
theorem progress_of_dial {ctx : LoopContext} {c c' : Connection} {since : Nat} {delay : Option Nat}
    {e : Errand} (hp : c.phase = .dialling since delay) (hs : c.state = .connecting)
    (ho : c.outcome = none) (h : c.dial? ctx since delay e = some c') : Progress ctx c c' := by
  have hrefused : ∀ e, Progress ctx c (c.connectFailed e) := by
    intro e
    obtain ⟨log, hfailed⟩ := connectFailed_eq ho hs e
    rw [hfailed]
    exact .refused e log hp
  unfold dial? at h
  split at h
  · split at h
    · cases h
      exact hrefused _
    · split at h
      · split at h
        · cases h
          exact hrefused _
        · cases h
          exact progress_of_established hp hs ho
      · cases h
  · split at h
    · cases h
      exact hrefused _
    · cases h
  · cases h

/-- Whatever the driver of a connection in good standing sees to, and in whichever order, what it makes of
the connection is one of those listed. -/
theorem progress_of_seeTo? {stopped : Bool} {ctx : LoopContext} {c c' : Connection} {e : Errand}
    (h : c.Standing stopped) (hsee : c.seeTo? ctx e = some c') : Progress ctx c c' := by
  unfold seeTo? at hsee
  split at hsee
  · cases hsee
  · cases hsee
  · rename_i since delay hp
    exact progress_of_dial hp (h.state_of_dialling hp)
      (h.outcome_of_isDriven (by simp [isDriven, hp])) hsee
  · rename_i s hp
    split at hsee
    · rename_i hreach
      exact progress_of_attend hp (h.state_of_live hp)
        (h.outcome_of_isDriven (by simp [isDriven, hp])) hreach hsee
    · rename_i hreach
      rw [Bool.not_eq_true] at hreach
      split at hsee
      · cases hsee
        exact .broken hp (.inl hreach)
      · cases hsee

/-- A turn is taken by the driver of an open wire that has a permit for it. -/
theorem exists_of_seeTo?_turn {ctx : LoopContext} {c c' : Connection}
    (h : c.seeTo? ctx .turn = some c') :
    ∃ s, c.phase = .live s ∧ s.inReach ctx = true ∧ c.writable = true ∧
      c' = afterSend ctx (c.turn ctx s) := by
  unfold seeTo? at h
  split at h
  · cases h
  · cases h
  · cases h
  · rename_i s hp
    split at h
    · rename_i hreach
      unfold attend? at h
      dsimp only at h
      split at h
      · rename_i hw
        cases h
        exact ⟨s, hp, hreach, hw, rfl⟩
      · cases h
    · cases h

/-- From `c` to `c'` the audio stays as it is and nothing but pings is sent. -/
def PingsAtMost (c c' : Connection) : Prop :=
  c'.audio = c.audio ∧ (c'.wire.sent = c.wire.sent ∨ c'.wire.sent = c.wire.sent ++ [.ping []])

theorem pingsAtMost_endedBy {c : Connection} (hs : c.state = .connected ∨ c.state = .disconnecting)
    (ho : c.outcome = none) (ctx : LoopContext) (e : Ending) : c.PingsAtMost (c.endedBy ctx e) := by
  obtain ⟨final, last, o, hv, hm, hlast⟩ := e.exists_verdict c.graceful hs
  obtain ⟨log, hended⟩ := endedBy_eq ho hv hm hlast ctx
  rw [hended]
  exact ⟨rfl, .inl rfl⟩

theorem pingsAtMost_takeIn {c : Connection} (hs : c.state = .connected ∨ c.state = .disconnecting)
    (ho : c.outcome = none) (ctx : LoopContext) (s : Session) (a : Arrival) :
    c.PingsAtMost (c.takeIn ctx s a) := by
  cases a with
  | fragment f =>
    unfold takeIn takeFragment
    dsimp only
    split
    · exact ⟨rfl, .inl rfl⟩
    · obtain ⟨log, htake⟩ := pushFragment_eq ho { s with lastHeard := ctx.now } f
      rw [htake]
      exact ⟨rfl, .inl rfl⟩
  | heartbeat => exact ⟨rfl, .inl rfl⟩
  | closed code reason => exact pingsAtMost_endedBy hs ho ctx _
  | failed e => exact pingsAtMost_endedBy hs ho ctx _
  | ended => exact pingsAtMost_endedBy hs ho ctx _

theorem pingsAtMost_transmit {c : Connection} (hs : c.state = .connected ∨ c.state = .disconnecting)
    (ho : c.outcome = none) (ctx : LoopContext) :
    c.PingsAtMost (afterSend ctx (c.transmit ctx.network (.ping []))) := by
  rcases transmit_eq ctx.network c (.ping []) with ⟨reason, _, hsend⟩ | ⟨_, log, hsend⟩
  · rw [hsend]
    exact pingsAtMost_endedBy hs ho ctx _
  · rw [hsend]
    exact ⟨rfl, .inr rfl⟩

/-- Only a writable turn touches the audio, and nothing else sends anything but pings. -/
theorem pingsAtMost_of_seeTo? {stopped : Bool} {ctx : LoopContext} {c c' : Connection} {e : Errand}
    (h : c.Standing stopped) (hsee : c.seeTo? ctx e = some c') (he : e ≠ .turn) :
    c.PingsAtMost c' := by
  unfold seeTo? at hsee
  split at hsee
  · cases hsee
  · cases hsee
  · rename_i since delay hp
    cases progress_of_dial hp (h.state_of_dialling hp)
      (h.outcome_of_isDriven (by simp [isDriven, hp])) hsee with
    | refused | opened => exact ⟨rfl, .inl rfl⟩
    | _ => simp_all
  · rename_i s hp
    have hs := h.state_of_live hp
    have ho := h.outcome_of_isDriven (by simp [isDriven, hp])
    split at hsee
    · cases e with
      | turn => exact absurd rfl he
      | arrival =>
        unfold attend? at hsee
        dsimp only at hsee
        split at hsee
        · rename_i a rest _
          cases hsee
          exact pingsAtMost_takeIn (c := { c with wire := { c.wire with inbound := rest } }) hs ho ctx s a
        · cases hsee
      | ping =>
        obtain ⟨p, _, rfl⟩ := Option.map_eq_some_iff.mp hsee
        unfold sendPing
        dsimp only
        split
        · exact pingsAtMost_transmit
            (c := { c with phase := .live { s with ping := some (p.ticked ctx.now) } }) hs ho ctx
        · exact ⟨rfl, .inl rfl⟩
      | silence | closeTimeout =>
        unfold attend? at hsee
        dsimp only at hsee
        split at hsee
        · cases hsee
          exact pingsAtMost_endedBy hs ho ctx _
        · cases hsee
      | reckon | dial | connectTimeout => cases hsee
    · split at hsee
      · cases hsee
        exact ⟨rfl, .inl rfl⟩
      · cases hsee

section Kept

variable {ctx : LoopContext} {c c' : Connection}

/-- A driver does not change the name of its connection. -/
theorem Progress.id (h : Progress ctx c c') : c'.id = c.id := by
  cases h with
  | sent log phase attempt => cases attempt <;> rfl
  | lost log phase attempt => cases attempt <;> rfl
  | _ => rfl

theorem Progress.config (h : Progress ctx c c') : c'.config = c.config := by
  cases h with
  | sent log phase attempt => cases attempt <;> rfl
  | lost log phase attempt => cases attempt <;> rfl
  | _ => rfl

end Kept

end Connection

end VoiceBridge
