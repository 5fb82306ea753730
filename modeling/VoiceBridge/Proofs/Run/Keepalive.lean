import VoiceBridge.Proofs.Run.Closing
import VoiceBridge.Proofs.Run.Completion
import VoiceBridge.Proofs.Run.Flush
import VoiceBridge.Proofs.Run.Timers

/-!
# Keepalive and the silence of the far end

Pings go out every `p`, the far end is given up after a silence of `t`, and time passes in jumps of at
most `j`, between which the bridge comes to rest. How the three relate is left to the settings.

If `p + j ≤ t`, a far end that answers every ping is never given up: at rest the next ping is due no later
than `p` after the far end was last heard, so that no jump reaches past the silence (`Lively`). If
`t + j ≤ p`, the silence is over before the first ping is due, and a connection on which nothing arrives
is dropped although its far end would have answered (`Course`).
-/

namespace VoiceBridge

namespace Bridge

/-- Time passes in jumps of at most `j`, and as long as the service runs only at rest. -/
def timely (j : Nat) (b : Bridge) : Move → Prop
  | .wait nanos => nanos ≤ j ∧ (b.queues.stopped = false → b.AtRest)
  | _ => True

/-- Far ends go on answering pings unless they are told not to. -/
theorem autoPong_move {b : Bridge} {m : Move} (h : b.network.autoPong = true)
    (hm : m ≠ .act (.autoPong false)) : (b.move m).network.autoPong = true := by
  rw [network_move]
  cases m with
  | act action =>
    cases action with
    | autoPong on =>
      cases on with
      | true => rfl
      | false => exact absurd rfl hm
    | _ => exact h
  | _ => exact h

/-- A move that lets time pass is a wait. -/
theorem timely_cases {j : Nat} {b : Bridge} {m : Move} (h : b.timely j m) :
    m.nanos = 0 ∨ m.nanos ≤ j ∧ (b.queues.stopped = false → b.AtRest) := by
  cases m with
  | wait nanos => exact .inr h
  | _ => exact .inl rfl

end Bridge

namespace Connection

/-! ### A far end that answers -/

/-- The far end was heard in time, and either the next ping is due within a period of that or something
of it waits to be taken in. -/
def Lively (j : Nat) (b : Bridge) (c : Connection) : Prop :=
  ∀ s p, c.phase = .live s → s.closeSent = false → s.ping = some p →
    p.period + j ≤ b.config.pongTimeout.nanos →
    s.lastHeard ≤ b.now ∧ b.now ≤ s.lastHeard + b.config.pongTimeout.nanos ∧
      (p.next ≤ s.lastHeard + p.period ∨ c.wire.inbound ≠ [] ∧ p.next ≤ b.now + p.period)

theorem next_ticked_le {p : PingTimer} {now : Nat} (hdue : p.next < now) :
    (p.ticked now).next ≤ now + p.period := by
  unfold PingTimer.ticked
  dsimp only
  split <;> omega

/-- A step of the driver keeps the far end lively. -/
theorem Lively.progress {j : Nat} {b : Bridge} {c c' : Connection} (h : c.Lively j b) (hwired : c.Wired)
    (hpong : b.network.autoPong = true) (hs : Progress b.context c c') : c'.Lively j b := by
  intro s' p hp' hopen htimer hperiod
  rcases hs.beat hwired hp' with ⟨s, hp, hbeat⟩ | ⟨_, rfl, _⟩
  · cases hbeat with
    | same inbound =>
      rw [inbound]
      exact h _ _ hp hopen htimer hperiod
    | closing => cases hopen
    | @pinged before _ hbefore due inbound _ =>
      cases htimer
      obtain ⟨hle, hin, _⟩ := h s before hp hopen hbefore hperiod
      refine ⟨hle, hin, .inr ⟨?_, next_ticked_le due⟩⟩
      have hecho : Wire.echo b.context.network (.ping []) = [.heartbeat] := if_pos hpong
      rw [inbound, hecho]
      simp
    | heard =>
      obtain ⟨hle, _, hnext⟩ := h s p hp hopen htimer hperiod
      refine ⟨Nat.le_refl _, Nat.le_add_right _ _, .inl ?_⟩
      change p.next ≤ b.now + p.period
      rcases hnext with hnext | ⟨_, hnext⟩ <;> omega
  · obtain ⟨period, _, rfl⟩ := Option.map_eq_some_iff.mp htimer
    exact ⟨Nat.le_refl _, Nat.le_add_right _ _, .inl (Nat.le_refl _)⟩

theorem Lively.passage {j : Nat} {b : Bridge} {c c' : Connection} {m : Move} (h : c.Lively j b)
    (hstanding : c.Standing b.queues.stopped) (hwired : c.Wired) (hpong : b.network.autoPong = true)
    (hm : b.timely j m) {id : String} (hc : b.find? id = some c) (hp : Bridge.Passage b c m c') :
    c'.Lively j (b.move m) := by
  have hnow := b.now_move m
  have hconfig := b.config_move m
  cases hp with
  | driven _ still progress =>
    intro s' p hp' hopen htimer hperiod
    rw [hconfig] at hperiod ⊢
    rw [hnow, still, Nat.add_zero]
    exact h.progress hwired hpong progress s' p hp' hopen htimer hperiod
  | dialled _ _ phase =>
    intro s p hp
    rw [phase] at hp
    cases hp
  | left phase _ _ inbound =>
    intro s p hp' hopen htimer hperiod
    rw [hconfig] at hperiod ⊢
    have hp : c.phase = .live s := by
      rcases phase with phase | ⟨_, phase⟩
      · exact phase ▸ hp'
      · rw [phase] at hp'
        cases hp'
    obtain ⟨hle, hin, hnext⟩ := h s p hp hopen htimer hperiod
    have hkept : c.wire.inbound ≠ [] → c'.wire.inbound ≠ [] := by
      rcases inbound with inbound | ⟨_, _, inbound⟩ <;> rw [inbound]
      · exact fun h => h
      · simp +contextual
    rw [hnow]
    rcases Bridge.timely_cases hm with hstill | ⟨hjump, hrest⟩
    · rw [hstill, Nat.add_zero]
      exact ⟨hle, hin, hnext.imp_right fun hnext => ⟨hkept hnext.1, hnext.2⟩⟩
    · -- At rest everything has been taken in and no ping is due.
      have hrunning := hstanding.running_of_isDriven (by simp [isDriven, hp])
      obtain ⟨_, hnil, hping, _⟩ := rest_of_live hp ((hrest hrunning).seeTo? hc)
      have hdue : b.now ≤ p.next := hping p htimer hopen
      have hsoon : p.next ≤ s.lastHeard + p.period :=
        hnext.resolve_right fun hnext => hnext.1 hnil
      exact ⟨by omega, by omega, .inl hsoon⟩

/-- A connected connection with a lively far end is not given up. -/
theorem Lively.not_silent {stopped : Bool} {j : Nat} {p : Span} {b : Bridge} {c : Connection}
    (h : c.Lively j b) (hstanding : c.Standing stopped)
    (hperiod : ∀ s, c.phase = .live s → s.ping.map (·.period) = some p.nanos)
    (hshort : p.nanos + j ≤ b.config.pongTimeout.nanos) (hs : c.state = .connected) :
    c.seeTo? b.context .silence = none := by
  cases hp : c.phase with
  | live s =>
    cases hreach : s.inReach b.context with
    | false => simp [seeTo?, hp, hreach]
    | true =>
      rw [seeTo?_of_live hp hreach]
      refine attend?_silence_eq_none.mpr fun _ => ?_
      obtain ⟨timer, htimer, hnanos⟩ := Option.map_eq_some_iff.mp (hperiod s hp)
      exact (h s timer hp (hstanding.closeSent_of_connected hp hs) htimer (hnanos ▸ hshort)).2.1
  | dialling => simp [seeTo?, hp, dial?]
  | _ => simp [seeTo?, hp]

/-! ### A far end that is not asked in time -/

/-- From `c` to `c'` the wire opens. -/
def opens (c c' : Connection) : Bool := !c.isLive && c'.isLive

/-- How a connection fares on which nothing arrives: its wire opens once, at a time that is seen, and then
it waits for its first ping until it is dropped. -/
inductive Course (period : Nat) (b : Bridge) (c : Connection) : List Nat → Prop
  | unopened (phase : c.phase = .absent ∨ c.isDialling = true) (inbound : c.wire.inbound = [])
      (sent : c.wire.sent = []) : Course period b c []
  | refused (phase : c.phase = .over) : Course period b c []
  | waiting {s : Session} {p : PingTimer} (phase : c.phase = .live s)
      (deadline : s.closeDeadline = none) (timer : s.ping = some p)
      (next : s.lastHeard + period ≤ p.next) (inbound : c.wire.inbound = [])
      (pings : ∀ f ∈ c.wire.sent, f.isPing = false) (early : b.now ≤ s.lastHeard + period) :
      Course period b c [s.lastHeard]
  | dropped {opened : Nat} (phase : c.phase = .over) (state : c.state = .failed)
      (last : c.events.getLast? = some .connectionDropped)
      (pings : ∀ f ∈ c.wire.sent, f.isPing = false)
      (cause : opened + b.config.pongTimeout.nanos < b.now ∨ c.wire.sendFault?.isSome) :
      Course period b c [opened]

section Course

variable {period : Nat} {b : Bridge} {c c' : Connection} {seen : List Nat}

/-- How a connection fares is a matter of a few fields. -/
theorem Course.congr (h : c.Course period b seen) (hp : c'.phase = c.phase) (hs : c'.state = c.state)
    (he : c'.events = c.events) (hin : c'.wire.inbound = c.wire.inbound)
    (hsent : c'.wire.sent = c.wire.sent) (hfault : c'.wire.faults = c.wire.faults) :
    c'.Course period b seen := by
  have hsend : c'.wire.sendFault? = c.wire.sendFault? := by
    unfold Wire.sendFault?
    rw [hsent, hfault]
  cases h with
  | unopened phase inbound sent =>
    refine .unopened ?_ (hin.trans inbound) (hsent.trans sent)
    simpa [isDialling, hp] using phase
  | refused phase => exact .refused (hp.trans phase)
  | waiting phase deadline timer next inbound pings early =>
    exact .waiting (hp.trans phase) deadline timer next (hin.trans inbound) (hsent ▸ pings) early
  | dropped phase state last pings cause =>
    exact .dropped (hp.trans phase) (hs.trans state) (he ▸ last) (hsent ▸ pings) (hsend ▸ cause)

/-- A connection fares on as time passes, as long as its first ping is not due. -/
theorem Course.later {b' : Bridge} (h : c.Course period b seen) (hconfig : b'.config = b.config)
    (hnow : b.now ≤ b'.now)
    (hearly : ∀ s, c.phase = .live s → s.ping.isSome → b.now ≤ s.lastHeard + period →
      b'.now ≤ s.lastHeard + period) : c.Course period b' seen := by
  cases h with
  | unopened phase inbound sent => exact .unopened phase inbound sent
  | refused phase => exact .refused phase
  | waiting phase deadline timer next inbound pings early =>
    exact .waiting phase deadline timer next inbound pings
      (hearly _ phase (by rw [timer]; rfl) early)
  | dropped phase state last pings cause =>
    refine .dropped phase state last pings (cause.imp_left fun hlate => ?_)
    rw [hconfig]
    exact Nat.lt_of_lt_of_le hlate hnow

theorem noted_of_live {s : Session} (hp : c.phase = .live s) (c' : Connection) :
    note b opens c c' = [] := by
  have hlive : c.isLive = true := isLive_of_phase hp
  simp [note, opens, hlive]

theorem noted_of_shut (h : ∀ s, c'.phase ≠ .live s) : note b opens c c' = [] := by
  have hshut : c'.isLive = false := by
    cases hlive : c'.isLive with
    | false => rfl
    | true =>
      obtain ⟨s, hs⟩ := isLive_iff.mp hlive
      exact absurd hs (h s)
  simp [note, opens, hshut]

/-- A frame other than a ping that is not answered leaves nothing to take in, and no ping. -/
theorem sending_of_unanswered (net : Network) {w : Wire} {f : OutboundFrame} (hf : f.isPing = false)
    (hecho : Wire.echo net f = []) (hin : w.inbound = []) (hpings : ∀ g ∈ w.sent, g.isPing = false) :
    (w.sending net f).inbound = [] ∧ ∀ g ∈ (w.sending net f).sent, g.isPing = false := by
  refine ⟨by rw [Wire.sending, hin, hecho]; rfl, fun g hg => ?_⟩
  rcases List.mem_append.mp hg with hg | hg
  · exact hpings g hg
  · rw [List.mem_singleton.mp hg]
    exact hf

/-- A connected connection that ends by anything else than a close from the far end is dropped. -/
theorem Course.of_verdict {d : Connection} {e : Ending} {final : ConnectionState} {last : EventKind}
    {o : TerminalOutcome} {opened : Nat} (log : List LogLine) (hs : c.state = .connected)
    (hne : e ≠ .remoteClose) (hv : e.verdict? c.graceful c.state = some (final, last))
    (hpings : ∀ f ∈ d.wire.sent, f.isPing = false)
    (hcause : opened + b.config.pongTimeout.nanos < b.now ∨ d.wire.sendFault?.isSome) :
    (d.finished final last o log).Course period b [opened] := by
  rw [hs] at hv
  have hverdict : final = .failed ∧ last = .connectionDropped := by
    cases e with
    | remoteClose => exact absurd rfl hne
    | _ => cases hv; exact ⟨rfl, rfl⟩
  obtain ⟨rfl, rfl⟩ := hverdict
  exact .dropped rfl rfl (by simp [finished]) hpings hcause

/-- A connection that nobody closes and on which nothing arrives goes on waiting or is dropped. -/
theorem Course.of_waiting {s : Session} {p : PingTimer} (hp : c.phase = .live s)
    (hdeadline : s.closeDeadline = none) (htimer : s.ping = some p)
    (hnext : s.lastHeard + period ≤ p.next) (hin : c.wire.inbound = [])
    (hpings : ∀ f ∈ c.wire.sent, f.isPing = false) (hearly : b.now ≤ s.lastHeard + period)
    (hs : c.state = .connected) (hclose : s.closeSent = false) (hwired : c.Wired)
    (hwhole : ¬c'.CutOff) (ho : c.outcome = none) (h : Progress b.context c c') :
    c'.Course period b [s.lastHeard] := by
  have hgoOn : ∀ {d : Connection}, d.phase = .live s → d.wire.inbound = [] →
      (∀ f ∈ d.wire.sent, f.isPing = false) → d.Course period b [s.lastHeard] :=
    fun hd hdin hdsent => .waiting hd hdeadline htimer hnext hdin hdsent hearly
  have hsame : ∀ {t : Session}, c.phase = .live t → t = s := fun ht =>
    Phase.live.inj (ht.symm.trans hp)
  cases h with
  | refused _ _ phase | opened _ phase => simp [hp] at phase
  | spent phase _ closeSent =>
    rw [hsame phase, hclose] at closeSent
    cases closeSent
  | quiet => exact hgoOn hp hin hpings
  | sent log phase attempt =>
    cases attempt with
    | text _ _ _ outbox =>
      have hf := hwired.outbox _ (by rw [outbox]; exact List.mem_cons_self)
      obtain ⟨hleft, hsent⟩ := sending_of_unanswered b.context.network
        (OutboundFrame.isPing_of_isQueued hf) (Wire.echo_of_isQueued _ hf) hin hpings
      exact hgoOn hp hleft hsent
    | close _ _ _ _ state => simp [hs] at state
    | audio =>
      obtain ⟨hleft, hsent⟩ := sending_of_unanswered b.context.network
        (f := .binary c.audio.pending) rfl rfl hin hpings
      exact hgoOn hp hleft hsent
    | ping _ timer due =>
      rw [hsame phase, htimer] at timer
      cases timer
      exact absurd (Nat.lt_of_le_of_lt hnext due) (Nat.not_lt.mpr hearly)
  | @lost _ _ before _ _ _ _ _ log phase attempt fault verdict =>
    have hwire : before.wire = c.wire := by cases attempt <;> rfl
    refine .of_verdict log hs (by simp) verdict (hwire ▸ hpings) (.inr ?_)
    rw [hwire, fault]
    rfl
  | discarded _ inbound | taken _ _ inbound | heard _ inbound | ended _ _ inbound =>
    simp [hin] at inbound
  | broken => exact absurd ⟨rfl, ho⟩ hwhole
  | expired log phase cause verdict =>
    have ht := hsame phase
    subst ht
    rcases cause with ⟨rfl, _, hlate⟩ | ⟨_, deadline, hsome, _⟩
    · exact .of_verdict log hs (by simp) verdict hpings (.inl hlate)
    · simp [hdeadline] at hsome

theorem Course.progress {span : Span} (h : c.Course span.nanos b seen)
    (hperiod : c.config.profile.keepaliveInterval b.config.keepalive = some span)
    (hask : ¬c.CloseAsked) (hstanding : c.Standing false) (hwired : c.Wired) (hwhole : ¬c'.CutOff)
    (hp : Progress b.context c c') : c'.Course span.nanos b (seen ++ note b opens c c') := by
  have hdriven := hp.isDriven
  cases h with
  | refused phase | dropped phase => simp [isDriven, phase] at hdriven
  | unopened fresh inbound sent =>
    cases hp with
    | refused e log phase =>
      rw [noted_of_shut (fun s hs => by cases hs)]
      exact .refused rfl
    | opened log phase =>
      have hshut : c.isLive = false := by simp [isLive, phase]
      have htimer : (Session.begin b.context c.config).ping =
          some { period := span.nanos, next := b.now + span.nanos } := by
        change (c.config.profile.keepaliveInterval b.config.keepalive).map _ = _
        rw [hperiod]
        rfl
      rw [note, opens, hshut]
      exact .waiting (s := .begin b.context c.config) rfl rfl htimer (Nat.le_refl _) inbound
        (by simp [sent]) (Nat.le_add_right _ _)
    | spent phase | quiet _ phase | sent _ phase | lost _ phase | discarded phase | taken _ phase
    | heard phase | ended _ phase | expired _ phase | broken phase => simp [isDialling, phase] at fresh
  | waiting phase deadline timer next inbound pings early =>
    have hs : c.state = .connected :=
      (hstanding.state_of_live phase).resolve_right fun hs => hask (.inr (.inl hs))
    rw [noted_of_live phase, List.append_nil]
    exact .of_waiting phase deadline timer next inbound pings early hs
      (hstanding.closeSent_of_connected phase hs) hwired hwhole (hstanding.outcome_of_isDriven hdriven) hp

/-- The connection stays connected for as long as the silence since its handshake may last, and at rest
after that it is dropped. -/
theorem Course.outcome {stopped : Bool} {opened : Nat} (h : c.Course period b seen)
    (hopened : seen.getLast? = some opened) (hask : ¬c.CloseAsked) (hstanding : c.Standing stopped) :
    (b.now ≤ opened + b.config.pongTimeout.nanos → c.wire.sendFault? = none → c.state = .connected) ∧
      (opened + b.config.pongTimeout.nanos < b.now → (∀ e, c.seeTo? b.context e = none) →
        c.state = .failed ∧ c.events.getLast? = some .connectionDropped ∧
          ∀ f ∈ c.wire.sent, f.isPing = false) := by
  cases h with
  | unopened | refused => cases hopened
  | waiting phase _ timer _ _ pings =>
    cases hopened
    refine ⟨fun _ _ => ?_, fun hlate hrest => ?_⟩
    · exact (hstanding.state_of_live phase).resolve_right fun hs => hask (.inr (.inl hs))
    · obtain ⟨_, _, _, hheard, _⟩ := rest_of_live phase hrest
      exact absurd hlate (Nat.not_lt.mpr (hheard (by rw [timer]; rfl)))
  | dropped _ state last pings cause =>
    cases hopened
    refine ⟨fun hearly hsound => ?_, fun _ _ => ⟨state, last, pings⟩⟩
    rcases cause with hlate | hfault
    · exact absurd hlate (Nat.not_lt.mpr hearly)
    · rw [hsound] at hfault
      cases hfault

end Course

end Connection

namespace Bridge

/-- The actions that close the connection of a name, let something arrive on it or stop the service. -/
def disturbs (id : String) : Action → Bool
  | .call name call => name == id && call.asksToClose
  | .far name (.send _) => name == id
  | .shutdown => true
  | _ => false

theorem course_change {span : Span} {b : Bridge} {c c' : Connection} {m : Move}
    {seen : List Nat} (h : c.Course span.nanos b seen) (hask : ¬c.CloseAsked)
    (hperiod : c.config.profile.keepaliveInterval b.config.keepalive = some span)
    (hm : ∀ action, m.action? = some action → disturbs c.id action = false)
    (hstanding : c.Standing b.queues.stopped) (hwired : c.Wired)
    (hwhole : b.queues.stopped = false → ¬c'.CutOff) (hchange : Change b c m c') :
    ¬c'.CloseAsked ∧ c'.Course span.nanos b (seen ++ Connection.note b Connection.opens c c') := by
  have hkept : c'.CloseAsked = c.CloseAsked → c'.phase = c.phase → c'.state = c.state →
      c'.events = c.events → c'.wire.inbound = c.wire.inbound → c'.wire.sent = c.wire.sent →
      c'.wire.faults = c.wire.faults →
      ¬c'.CloseAsked ∧ c'.Course span.nanos b (seen ++ Connection.note b Connection.opens c c') := by
    intro hasked hp hs he hin hsent hfaults
    have hnone : Connection.note b Connection.opens c c' = [] := by
      have hlive : c'.isLive = c.isLive := by simp [Connection.isLive, hp]
      simp [Connection.note, Connection.opens, hlive]
    rw [hnone, List.append_nil, hasked]
    exact ⟨hask, h.congr hp hs he hin hsent hfaults⟩
  cases hchange with
  | @call call held =>
    have hframe := Connection.CallFrame.perform c b.queues call
    have hopen : call.asksToClose = false := by simpa [disturbs] using hm _ rfl
    obtain ⟨hs, hnoted⟩ := (Connection.scope_perform c b.queues call).closing.resolve_right
      (by simp [hopen])
    refine hkept ?_ hframe.phase hs hframe.events ?_ ?_ ?_
    · rw [Connection.CloseAsked, hs, hnoted, hframe.wire, Connection.CloseAsked]
    all_goals rw [hframe.wire]
  | @far call =>
    cases call with
    | send arrivals => simpa [disturbs] using hm _ rfl
    | _ => exact hkept rfl rfl rfl rfl rfl rfl rfl
  | takenUp running =>
    rw [running] at hstanding
    obtain ⟨d, _, _, heq, _, hcases⟩ := takenUp_cases b c
    rw [heq] at hkept ⊢
    rcases hcases with rfl | ⟨_, hidle, rfl⟩
    · exact hkept rfl rfl rfl rfl rfl rfl rfl
    · have hshut := (hstanding.of_idle hidle).1
      rw [Connection.noted_of_shut (fun s hs => by cases hs), List.append_nil]
      cases h with
      | unopened _ inbound sent =>
        refine ⟨fun hasked => hask ?_, .unopened (.inr rfl) inbound sent⟩
        exact hasked.imp (fun h => h) (Or.imp (fun hs => by cases hs) fun hmem => hmem)
      | refused phase | dropped phase => simp [hshut] at phase
      | waiting phase => simp [hshut] at phase
  | progress running progress =>
    rw [running] at hstanding
    exact ⟨fun hasked => hask (hasked.of_progress hwired progress),
      h.progress hperiod hask hstanding hwired (hwhole running) progress⟩
  | cut => simpa [disturbs] using hm _ rfl
  | unheld | other | spared => exact hkept rfl rfl rfl rfl rfl rfl rfl

/-- A jump from rest does not reach past the first ping. -/
theorem early_of_timely {j period : Nat} {b : Bridge} {m : Move} {id : String} {c c' : Connection}
    {s : Session} (hsilence : b.config.pongTimeout.nanos + j ≤ period) (hm : b.timely j m)
    (hc : b.find? id = some c) (hstanding : c.Standing b.queues.stopped)
    (hchange : Change b c m c') (hp : c'.phase = .live s) (htimer : s.ping.isSome)
    (hearly : b.now ≤ s.lastHeard + period) : (b.move m).now ≤ s.lastHeard + period := by
  rw [now_move]
  cases m with
  | wait nanos =>
    have hsame := hchange.eq_of_wait
    subst hsame
    have hrunning := hstanding.running_of_isDriven (by simp [Connection.isDriven, hp])
    obtain ⟨_, _, _, hheard, _⟩ := Connection.rest_of_live hp ((hm.2 hrunning).seeTo? hc)
    have hnow : b.now ≤ s.lastHeard + b.config.pongTimeout.nanos := hheard htimer
    have hjump : nanos ≤ j := hm.1
    change b.now + nanos ≤ _
    omega
  | _ => exact hearly

/-- How the connection of a name fares along a play on which nothing disturbs it, as long as the clock
reaches. -/
theorem course_play {config : ServiceConfig} {moves : List Move} {id : String} {c : Connection}
    {j : Nat} {span : Span} (hc : (play { config } moves).find? id = some c)
    (htimely : ({ config } : Bridge).Along (timely j) moves)
    (hmoves : ∀ m ∈ moves, ∀ action, m.action? = some action → disturbs id action = false)
    (hperiod : c.config.profile.keepaliveInterval config.keepalive = some span)
    (hsilence : config.pongTimeout.nanos + j ≤ span.nanos)
    (hreach : (play { config } moves).ClockReaches c.config.profile) :
    ¬c.CloseAsked ∧ c.Course span.nanos (play { config } moves)
      (record (whenever id Connection.opens) { config } moves) := by
  have hallowed : ({ config } : Bridge).Along (fun b m => b.timely j m ∧
      ∀ action, m.action? = some action → disturbs id action = false) moves :=
    along_and.mpr ⟨htimely, along_of_forall hmoves _⟩
  have hnew : ∀ {service panicsOn d}, Connection.create id service panicsOn = .ok d →
      ∀ b, ¬d.CloseAsked ∧ d.Course span.nanos b [] := by
    intro service panicsOn d hcreate b
    obtain ⟨_, _, rfl⟩ := Connection.create_eq hcreate
    refine ⟨?_, .unopened (.inl rfl) rfl rfl⟩
    rintro (h | h | h) <;> cases h
  have hplay := play_from_creation id (whenever id Connection.opens)
    (P := fun b c seen => c.KeepsTime b ∧
      (c.config.profile.keepaliveInterval b.config.keepalive = some span →
        b.config.pongTimeout.nanos + j ≤ span.nanos → b.ClockReaches c.config.profile →
          ¬c.CloseAsked ∧ c.Course span.nanos b seen))
    whenever_of_none (fun hcreate => ⟨.of_create hcreate, fun _ _ _ => hnew hcreate _⟩)
    (fun {b m d d' seen} hM hd hd' hstanding hwired hchange h => by
      obtain ⟨htime, hfares⟩ := h
      have htime' := keepsTime_move hstanding hwired hchange htime
      refine ⟨htime', fun hperiod hsilence hreach => ?_⟩
      have hwhole : b.queues.stopped = false → ¬d'.CutOff := fun hrunning =>
        htime'.intact ((stopped_move_of_ne fun hshutdown => by
          subst hshutdown
          simpa [disturbs] using hM.2 _ rfl).trans hrunning) hreach
      rw [hchange.config hstanding] at hperiod hreach
      rw [config_move] at hperiod hsilence
      rw [whenever_of_some hd hd']
      obtain ⟨hask, hcourse⟩ := hfares hperiod hsilence hreach.of_move
      have hid := id_of_find? hd
      obtain ⟨hask', hcourse'⟩ := course_change hcourse hask hperiod (by rw [hid]; exact hM.2)
        hstanding hwired hwhole hchange
      refine ⟨hask', hcourse'.later (config_move b m) ?_ fun s hp htimer hearly => ?_⟩
      · rw [now_move]
        exact Nat.le_add_right _ _
      · exact early_of_timely hsilence hM.1 hd hstanding hchange hp htimer hearly)
    config moves hallowed hc
  rw [config_play] at hplay
  exact hplay.2 hperiod hsilence hreach

/-- Along a play in which every ping is answered the far end of a connection is lively. -/
theorem lively_play {config : ServiceConfig} {moves : List Move} {id : String} {c : Connection}
    {j : Nat} (hc : (play { config } moves).find? id = some c)
    (htimely : ({ config } : Bridge).Along (timely j) moves)
    (hpong : .act (.autoPong false) ∉ moves) :
    c.Lively j (play { config } moves) := by
  have hanswered : ∀ (moves : List Move) {b : Bridge}, b.network.autoPong = true →
      .act (.autoPong false) ∉ moves →
      b.Along (fun b _ => b.network.autoPong = true) moves := by
    intro moves
    induction moves with
    | nil => exact fun _ _ => trivial
    | cons m moves ih =>
      intro b hb hmoves
      rw [List.mem_cons, not_or] at hmoves
      exact ⟨hb, ih (autoPong_move hb (Ne.symm hmoves.1)) hmoves.2⟩
  exact holds_of_play (P := fun b c => c.Lively j b)
    (fun hM hd _ hstanding hwired hchange h =>
      h.passage hstanding hwired hM.2 hM.1 hd (hchange.passage hstanding))
    (fun hcreate s p hp => by
      rw [(Unreached.of_create hcreate).phase] at hp
      cases hp)
    config moves (along_and.mpr ⟨htimely, hanswered moves rfl hpong⟩) hc

/-- A scenario that advances by jumps of at most `j` is a timely play with the same actions. -/
theorem exists_timely_run {config : ServiceConfig} {j : Nat} (steps : List Step)
    (hj : ∀ jumps, Step.advance jumps ∈ steps → ∀ nanos ∈ jumps, nanos ≤ j) :
    ∃ moves : List Move, ({ config } : Bridge).Along (timely j) moves ∧
      moves.filterMap Move.action? = steps.flatMap Step.actions ∧
      (run { config } steps).2 = play { config } moves := by
  refine exists_restful_run (M := timely j) (fun b m hstill => ?_)
    (fun _ _ hshort hrest => ⟨hshort, hrest⟩) steps hj
  cases m with
  | wait nanos => exact absurd rfl (hstill nanos)
  | act | loop | errand => trivial

end Bridge

/-- Whether pings keep a connection alive is a matter of the intervals. Let time pass in jumps of at most
`j`, in whatever order the drivers see to what is ready. If `p + j ≤ t` and the far ends answer pings, the
connected connection is never given up for silence. If `t + j ≤ p` and nothing arrives, nobody closes the
connection and the service is not stopped, then as long as the clock reaches, it stays connected while the
silence since its handshake is no longer than `t`, unless a send fails, and at rest after that it is
dropped, without a ping having been sent. Scenarios that advance by such jumps are such plays. -/
theorem keepalive_by_intervals (config : ServiceConfig) (j : Nat) :
    (∀ (moves : List Move) (id : String) (c : Connection) (p : Span),
      (Bridge.play { config } moves).find? id = some c →
      c.config.profile.keepaliveInterval config.keepalive = some p →
      ({ config } : Bridge).Along (Bridge.timely j) moves →
      let b := Bridge.play { config } moves
      let t := config.pongTimeout.nanos
      (p.nanos + j ≤ t → .act (.autoPong false) ∉ moves → c.state = .connected →
        c.seeTo? b.context .silence = none) ∧
      (t + j ≤ p.nanos → b.ClockReaches c.config.profile →
        (∀ m ∈ moves, ∀ action, m.action? = some action → Bridge.disturbs id action = false) →
        ∀ handshake, Bridge.lastTime id Connection.opens config moves = some handshake →
          (b.now ≤ handshake + t → c.wire.sendFault? = none → c.state = .connected) ∧
          (handshake + t < b.now → b.AtRest →
            c.state = .failed ∧ c.events.getLast? = some .connectionDropped ∧
              ∀ f ∈ c.wire.sent, f.isPing = false))) ∧
    ∀ steps : List Step,
      (∀ jumps, Step.advance jumps ∈ steps → ∀ nanos ∈ jumps, nanos ≤ j) →
      ∃ moves : List Move, ({ config } : Bridge).Along (Bridge.timely j) moves ∧
        moves.filterMap Move.action? = steps.flatMap Step.actions ∧
        (Bridge.run { config } steps).2 = Bridge.play { config } moves ∧
        ((Bridge.run { config } steps).2.queues.stopped = false →
          (Bridge.run { config } steps).2.AtRest) := by
  constructor
  · intro moves id c p hc hperiod htimely b t
    have hconfig : b.config = config := Bridge.config_play _ moves
    have hstanding := (Bridge.wired_play config moves c (List.mem_of_find?_eq_some hc)).1
    constructor
    · intro hshort hpong hs
      change p.nanos + j ≤ config.pongTimeout.nanos at hshort
      rw [← hconfig] at hshort
      refine (Bridge.lively_play hc htimely hpong).not_silent hstanding (p := p) (fun s hp => ?_) hshort hs
      rw [Bridge.period_play hc hp, hperiod]
      rfl
    · intro hlong hreach hmoves handshake hopened
      obtain ⟨hask, hcourse⟩ := Bridge.course_play hc htimely hmoves hperiod hlong hreach
      obtain ⟨hearly, hlate⟩ := hcourse.outcome hopened hask hstanding
      change (b.now ≤ handshake + b.config.pongTimeout.nanos → _) at hearly
      change (handshake + b.config.pongTimeout.nanos < b.now → _) at hlate
      rw [hconfig] at hearly hlate
      exact ⟨hearly, fun hpast hrest => hlate hpast (hrest.seeTo? hc)⟩
  · intro steps hj
    obtain ⟨moves, htimely, hacts, hreached⟩ := Bridge.exists_timely_run steps hj
    exact ⟨moves, htimely, hacts, hreached, (Bridge.stilled_run config steps).atRest⟩

/-- The bridge gives up a far end after three seconds and pings only every twenty. -/
def impatient : ServiceConfig := { pongTimeout := ⟨3000000000⟩ }

/-- A connection is opened and waits until its far end is given up. -/
def givingUp : List Move :=
  [.act (.create "a" { sessionId := "a", host := "far", audioCapacity := 8, headerReserve := 2 }
      none),
    .act (.call "a" .connect), .loop, .errand 0 .dial, .wait 3000000001,
    .errand 0 .silence]

theorem keepalive_by_intervals_giving_up :
    (∀ c, (Bridge.play { config := {} } ponging).find? "a" = some c →
      c.seeTo? (Bridge.play { config := {} } ponging).context .silence = none) ∧
    (∃ c, (Bridge.play { config := impatient } givingUp).find? "a" = some c ∧
      c.state = .failed ∧ c.events.getLast? = some .connectionDropped) ∧
    ∃ moves : List Move, ({ config := {} } : Bridge).Along (Bridge.timely 30000000000) moves ∧
      (Bridge.run { config := {} } pongingInSteps).2 = Bridge.play { config := {} } moves := by
  have hpatient : ∀ c ∈ (Bridge.play { config := {} } ponging).roster,
      c.config.profile.keepaliveInterval (some (.ofSecs 20)) = some (.ofSecs 20) ∧
        c.state = .connected := by decide +kernel
  have hponging : ({ config := {} } : Bridge).Along (Bridge.timely 30000000000) ponging :=
    ⟨trivial, trivial, trivial, trivial, ⟨by decide, fun _ => by decide +kernel⟩, trivial, trivial,
      trivial⟩
  have hgivingUp : ({ config := impatient } : Bridge).Along (Bridge.timely 17000000000) givingUp :=
    ⟨trivial, trivial, trivial, trivial, ⟨by decide, fun _ => by decide +kernel⟩, trivial, trivial⟩
  have hsome : ((Bridge.play { config := impatient } givingUp).find? "a").isSome = true := by
    decide +kernel
  have hperiod : ∀ c ∈ (Bridge.play { config := impatient } givingUp).roster,
      c.config.profile.keepaliveInterval impatient.keepalive = some (.ofSecs 20) ∧
        (Bridge.play { config := impatient } givingUp).ClockReaches c.config.profile := by
    decide +kernel
  obtain ⟨d, hd⟩ := Option.isSome_iff_exists.mp hsome
  refine ⟨?_, ?_, ?_⟩
  · intro c hc
    obtain ⟨hinterval, hs⟩ := hpatient c (List.mem_of_find?_eq_some hc)
    exact ((keepalive_by_intervals {} 30000000000).1 ponging "a" c (.ofSecs 20) hc hinterval
      hponging).1 (by decide) (by decide) hs
  · obtain ⟨hinterval, hreach⟩ := hperiod d (List.mem_of_find?_eq_some hd)
    have hdropped := ((keepalive_by_intervals impatient 17000000000).1 givingUp "a" d (.ofSecs 20) hd
      hinterval hgivingUp).2 (by decide) hreach (by decide) 0 (by decide +kernel)
    obtain ⟨hstate, hlast, _⟩ := hdropped.2 (by decide +kernel) (by decide +kernel)
    exact ⟨d, hd, hstate, hlast⟩
  · obtain ⟨moves, htimely, _, hreached, _⟩ :=
      (keepalive_by_intervals {} 30000000000).2 pongingInSteps (by simp [pongingInSteps])
    exact ⟨moves, htimely, hreached⟩

end VoiceBridge
