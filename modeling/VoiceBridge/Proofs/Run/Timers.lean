import VoiceBridge.Proofs.Run.AtRest

/-!
# Timers fire neither early nor late

A driver recomputes its deadlines on every pass from what its session holds. An observer who only sees
the connection from outside writes down when a driver begins to open its wire, when the far end is heard
and when a close frame goes out; `clocked_play` says that the session agrees with the last entry of
each record.

So at rest no deadline has passed, and a timer ends a connection only after its deadline, in whatever
order the drivers see to what is ready. A connection without timers is left alone by the passing of time, as
long as the clock reaches (`find?_of_untimed`).
-/

namespace VoiceBridge

namespace Connection

/-! ### What an observer sees -/

/-- The wire is being opened. -/
def isDialling (c : Connection) : Bool :=
  match c.phase with
  | .dialling .. => true
  | .absent | .live _ | .over => false

/-- From `c` to `c'` a driver begins to open the wire. -/
def begins (c c' : Connection) : Bool := !c.isDialling && c'.isDialling

/-- From `c` to `c'` the wire opens or something of what waits is taken in, and the wire stays open. -/
def hears (c c' : Connection) : Bool :=
  c'.isLive && (!c.isLive || decide (c'.wire.inbound.length < c.wire.inbound.length))

/-- From `c` to `c'` the close frame goes out. -/
def closes (c c' : Connection) : Bool :=
  decide (.close ∈ c'.wire.sent) && !decide (.close ∈ c.wire.sent)

end Connection

namespace Bridge

/-- The time of a move with which something happens to the connection of a name. -/
def whenever (id : String) (sign : Connection → Connection → Bool) (b : Bridge) (m : Move) :
    List Nat :=
  match b.find? id, (b.move m).find? id with
  | some c, some c' => if sign c c' then [b.now] else []
  | _, _ => []

/-- The last time at which something happened to the connection of a name. -/
def lastTime (id : String) (sign : Connection → Connection → Bool) (config : ServiceConfig)
    (moves : List Move) : Option Nat :=
  (record (whenever id sign) { config } moves).getLast?

end Bridge

namespace Connection

section Clocks

variable {b : Bridge} {c c' : Connection} {m : Move} {seen : List Nat}

/-- What is seen of a move. -/
def note (b : Bridge) (sign : Connection → Connection → Bool) (c c' : Connection) : List Nat :=
  if sign c c' then [b.now] else []

/-- A wire that is being opened was asked for when the driver was last seen to begin. -/
def DialClock (c : Connection) (seen : List Nat) : Prop :=
  ∀ since delay, c.phase = .dialling since delay → seen.getLast? = some since

theorem DialClock.passage (h : c.DialClock seen) (hp : Bridge.Passage b c m c') :
    c'.DialClock (seen ++ note b begins c c') := by
  intro since delay hphase
  cases hp with
  | driven _ _ progress =>
    rcases progress.isBegun with ⟨s, hlive⟩ | hover
    · rw [hlive] at hphase
      cases hphase
    · rw [hover] at hphase
      cases hphase
  | dialled _ before phase =>
    have hsign : begins c c' = true := by simp [begins, isDialling, before, phase]
    rw [phase] at hphase
    cases hphase
    rw [note, if_pos hsign, List.getLast?_append]
    rfl
  | left phase =>
    rcases phase with phase | ⟨_, phase⟩
    · have hsign : begins c c' = false := by simp [begins, isDialling, phase]
      rw [note, hsign, if_neg (by decide), List.append_nil]
      exact h since delay (phase ▸ hphase)
    · rw [phase] at hphase
      cases hphase

/-- The session knows when the far end was last seen to be heard. -/
def LivenessClock (c : Connection) (seen : List Nat) : Prop :=
  ∀ s, c.phase = .live s → seen.getLast? = some s.lastHeard

theorem LivenessClock.passage (h : c.LivenessClock seen) (hwired : c.Wired) (hp : Bridge.Passage b c m c') :
    c'.LivenessClock (seen ++ note b hears c c') := by
  intro s' hphase
  have hlive : c'.isLive = true := isLive_of_phase hphase
  -- Where nothing was taken in, nothing is noted.
  have hquiet : ∀ s, c.phase = .live s → c.wire.inbound.length ≤ c'.wire.inbound.length →
      seen ++ note b hears c c' = seen := by
    intro s hs hle
    have hopen : c.isLive = true := isLive_of_phase hs
    have hsign : hears c c' = false := by simp [hears, hopen, hle]
    rw [note, hsign, if_neg (by decide), List.append_nil]
  have hnoted : hears c c' = true → (seen ++ note b hears c c').getLast? = some b.now := by
    intro hsign
    rw [note, if_pos hsign, List.getLast?_append]
    rfl
  cases hp with
  | driven _ _ progress =>
    rcases progress.beat hwired hphase with ⟨s, hs, hbeat⟩ | ⟨⟨since, delay, hdial⟩, rfl, _⟩
    · cases hbeat with
      | same inbound =>
        rw [hquiet s' hs (Nat.le_of_eq (congrArg List.length inbound).symm)]
        exact h s' hs
      | closing _ _ inbound =>
        rw [hquiet s hs (by rw [inbound, List.length_append]; exact Nat.le_add_right _ _)]
        exact h s hs
      | pinged _ _ _ inbound =>
        rw [hquiet s hs (by rw [inbound, List.length_append]; exact Nat.le_add_right _ _)]
        exact h s hs
      | heard _ before after => exact hnoted (by simp [hears, hlive, before, after])
    · have hshut : c.isLive = false := by simp [isLive, hdial]
      exact hnoted (by simp [hears, hlive, hshut])
  | dialled _ _ phase =>
    rw [phase] at hphase
    cases hphase
  | left phase _ _ inbound =>
    rcases phase with phase | ⟨_, phase⟩
    · have hs : c.phase = .live s' := phase ▸ hphase
      rw [hquiet _ hs ?_]
      · exact h _ hs
      · rcases inbound with inbound | ⟨arrivals, _, inbound⟩
        · exact Nat.le_of_eq (congrArg List.length inbound).symm
        · rw [inbound, List.length_append]
          exact Nat.le_add_right _ _
    · rw [phase] at hphase
      cases hphase

/-- The session knows when its close frame was seen to go out. -/
structure CloseClock (timeout : Nat) (c : Connection) (seen : List Nat) : Prop where
  unopened : c.phase = .absent ∨ c.isDialling = true → seen = []
  closeSent : ∀ s, c.phase = .live s → s.closeSent = s.closeDeadline.isSome
  deadline : ∀ s, c.phase = .live s → s.closeDeadline = seen.getLast?.map (· + timeout)

theorem CloseClock.passage (h : c.CloseClock b.config.closeTimeout.nanos seen) (hwired : c.Wired)
    (hp : Bridge.Passage b c m c') :
    c'.CloseClock b.config.closeTimeout.nanos (seen ++ note b closes c c') := by
  have hquiet : (.close ∈ c'.wire.sent ↔ .close ∈ c.wire.sent) → note b closes c c' = [] := by
    intro hsent
    have hsign : closes c c' = false := by simp [closes, hsent]
    rw [note, hsign, if_neg (by decide)]
  cases hp with
  | driven _ _ progress =>
    have hopen : ∀ s', c'.phase = .live s' →
        s'.closeSent = s'.closeDeadline.isSome ∧
          s'.closeDeadline = (seen ++ note b closes c c').getLast?.map
            (· + b.config.closeTimeout.nanos) := by
      intro s' hphase
      rcases progress.beat hwired hphase with ⟨s, hs, hbeat⟩ | ⟨⟨since, delay, hdial⟩, rfl, _, hsent⟩
      · have hclose := h.closeSent s hs
        have hdeadline := h.deadline s hs
        cases hbeat with
        | same _ sent =>
          rw [hquiet sent, List.append_nil]
          exact ⟨hclose, hdeadline⟩
        | closing closeSent _ _ sent =>
          have hnot : .close ∉ c.wire.sent := fun hmem => by
            rw [(hwired.closeSent s hs).mpr hmem] at closeSent
            cases closeSent
          have hsign : closes c c' = true := by simp [closes, sent, hnot]
          rw [note, if_pos hsign, List.getLast?_append]
          exact ⟨rfl, rfl⟩
        | pinged _ _ _ _ sent =>
          rw [hquiet (by rw [sent]; exact close_mem_append (by simp)), List.append_nil]
          exact ⟨hclose, hdeadline⟩
        | heard _ _ _ sent =>
          rw [hquiet (by rw [sent]), List.append_nil]
          exact ⟨hclose, hdeadline⟩
      · have hnil := h.unopened (.inr (by simp [isDialling, hdial]))
        rw [hquiet (by rw [hsent]), hnil]
        exact ⟨rfl, rfl⟩
    refine ⟨fun hfresh => ?_, fun s hs => (hopen s hs).1, fun s hs => (hopen s hs).2⟩
    rcases progress.isBegun with ⟨s, hlive⟩ | hover
    · simp [isDialling, hlive] at hfresh
    · simp [isDialling, hover] at hfresh
  | dialled _ before phase _ sent =>
    rw [hquiet (by rw [sent]), List.append_nil, h.unopened (.inl before)]
    have hshut : ∀ s, c'.phase ≠ .live s := by simp [phase]
    exact ⟨fun _ => rfl, fun s hs => absurd hs (hshut s), fun s hs => absurd hs (hshut s)⟩
  | left phase _ sent =>
    rw [hquiet (by rw [sent]), List.append_nil]
    rcases phase with phase | ⟨_, phase⟩
    · refine ⟨fun hfresh => h.unopened ?_, fun s hs => h.closeSent s (phase ▸ hs),
        fun s hs => h.deadline s (phase ▸ hs)⟩
      simpa [isDialling, phase] using hfresh
    · have hshut : ∀ s, c'.phase ≠ .live s := by simp [phase]
      exact ⟨fun hfresh => by simp [isDialling, phase] at hfresh, fun s hs => absurd hs (hshut s),
        fun s hs => absurd hs (hshut s)⟩

theorem CloseClock.isSome_iff {timeout : Nat} {s : Session} (h : c.CloseClock timeout seen)
    (hwired : c.Wired) (hp : c.phase = .live s) :
    s.closeDeadline.isSome = true ↔ .close ∈ c.wire.sent := by
  rw [← h.closeSent s hp]
  exact hwired.closeSent s hp

/-- A deadline of the session goes back to the close frame that was last seen to go out. -/
theorem CloseClock.exists_last {timeout deadline : Nat} {s : Session} (h : c.CloseClock timeout seen)
    (hp : c.phase = .live s) (hdeadline : s.closeDeadline = some deadline) :
    ∃ t, seen.getLast? = some t ∧ t + timeout = deadline := by
  rw [h.deadline s hp] at hdeadline
  exact Option.map_eq_some_iff.mp hdeadline

end Clocks

end Connection

namespace Bridge

/-! ### The clocks after a play -/

theorem whenever_of_none {id : String} {sign : Connection → Connection → Bool} {b : Bridge}
    {m : Move} (h : b.find? id = none) : b.whenever id sign m = [] := by
  simp [whenever, h]

theorem whenever_of_some {id : String} {sign : Connection → Connection → Bool} {b : Bridge}
    {m : Move} {c c' : Connection} (hc : b.find? id = some c)
    (hc' : (b.move m).find? id = some c') :
    b.whenever id sign m = Connection.note b sign c c' := by
  simp [whenever, hc, hc', Connection.note]

/-- What every passage keeps of a connection and a record of it holds after every play. -/
theorem clock_play {id : String} {sign : Connection → Connection → Bool}
    {P : ServiceConfig → Connection → List Nat → Prop}
    (hnew : ∀ {service config panicsOn c}, Connection.create id config panicsOn = .ok c →
      P service c [])
    (hpassage : ∀ {b m c c' seen}, c.Wired → Passage b c m c' → P b.config c seen →
      P b.config c' (seen ++ Connection.note b sign c c'))
    (config : ServiceConfig) (moves : List Move) {c : Connection}
    (hc : (play { config } moves).find? id = some c) :
    P config c (record (whenever id sign) { config } moves) := by
  have hplay := play_from_creation id (whenever id sign)
    (P := fun b c seen => P b.config c seen) (M := fun _ _ => True) whenever_of_none hnew
    (fun {b m c c' seen} _ hc hc' hstanding hwired hchange h => by
      rw [whenever_of_some hc hc', config_move]
      exact hpassage hwired (hchange.passage hstanding) h)
    config moves (along_true _ _) hc
  rwa [config_play] at hplay

/-- The clocks of a connection agree with what an observer has seen. -/
theorem clocked_play {config : ServiceConfig} {moves : List Move} {id : String}
    {c : Connection} (hc : (play { config } moves).find? id = some c) :
    c.DialClock (record (whenever id Connection.begins) { config } moves) ∧
      c.LivenessClock (record (whenever id Connection.hears) { config } moves) ∧
      c.CloseClock config.closeTimeout.nanos
        (record (whenever id Connection.closes) { config } moves) := by
  have hshut : ∀ {config panicsOn c}, Connection.create id config panicsOn = .ok c →
      c.phase = .absent := fun hcreate => (Unreached.of_create hcreate).phase
  refine ⟨?_, ?_, ?_⟩
  · exact clock_play (P := fun _ c seen => c.DialClock seen)
      (fun hcreate _ _ hp => by simp [hshut hcreate] at hp) (fun _ hp h => h.passage hp)
      config moves hc
  · exact clock_play (P := fun _ c seen => c.LivenessClock seen)
      (fun hcreate _ hp => by simp [hshut hcreate] at hp) (fun hwired hp h => h.passage hwired hp)
      config moves hc
  · exact clock_play (P := fun service c seen => c.CloseClock service.closeTimeout.nanos seen)
      (fun hcreate => ⟨fun _ => rfl, fun _ hp => by simp [hshut hcreate] at hp,
        fun _ hp => by simp [hshut hcreate] at hp⟩)
      (fun hwired hp h => h.passage hwired hp) config moves hc

end Bridge

namespace Connection

/-! ### What is ready -/

section Ready

variable {ctx : LoopContext} {c c' : Connection}

theorem phase_connectFailed (e : LinkError) (c : Connection) : (c.connectFailed e).phase = .over := by
  unfold connectFailed
  dsimp only
  split <;> rfl

theorem Standing.exists_dialling (h : c.Standing false) (hs : c.state = .connecting) :
    ∃ since delay, c.phase = .dialling since delay := by
  cases h with
  | dialling _ phase => exact ⟨_, _, phase⟩
  | cutDialling stopped => cases stopped
  | dropped _ state | cutLive _ state => simp [hs] at state
  | _ => simp_all

/-- A driver that is done with opening its wire for now still has time. -/
theorem now_le_of_dialling {since : Nat} {delay : Option Nat} (hp : c.phase = .dialling since delay)
    (h : ∀ e, c.seeTo? ctx e = none) : ctx.now ≤ since + ctx.config.connectTimeout.nanos := by
  refine Nat.le_of_not_lt fun hlate => ?_
  have hdial := h .dial
  have htimeout := h .connectTimeout
  rw [seeTo?_of_dialling hp] at hdial htimeout
  cases hinvalid : c.wire.faults.invalid with
  | some reason => simp [dial?, hinvalid] at hdial
  | none =>
    cases hanswered : answered ctx since delay with
    | true => cases hrefusal : ctx.network.refusal <;> simp [dial?, hinvalid, hanswered, hrefusal] at hdial
    | false => simp [dial?, hinvalid, hanswered, hlate] at htimeout

/-- A driver of an open wire that is done for now has taken everything in and still has time. -/
theorem rest_of_live {s : Session} (hp : c.phase = .live s) (h : ∀ e, c.seeTo? ctx e = none) :
    c.writable = false ∧ c.wire.inbound = [] ∧
      (∀ p, s.ping = some p → s.closeSent = false → ctx.now ≤ p.next) ∧
      (s.ping.isSome = true → ctx.now ≤ s.lastHeard + ctx.config.pongTimeout.nanos) ∧
      ∀ deadline, s.closeDeadline = some deadline → ctx.now ≤ deadline := by
  have hattend := attend?_of_rest hp h
  have hturn := hattend .turn
  have harrival := hattend .arrival
  have hping := hattend .ping
  refine ⟨?_, ?_, fun p htimer hopen => ?_, attend?_silence_eq_none.mp (hattend .silence),
    attend?_closeTimeout_eq_none.mp (hattend .closeTimeout)⟩
  · cases hw : c.writable with
    | false => rfl
    | true => simp [attend?, hw] at hturn
  · cases hin : c.wire.inbound with
    | nil => rfl
    | cons a rest => simp [attend?, hin] at harrival
  · simpa [attend?, htimer, hopen] using hping

theorem late_of_connectTimeout (h : c.seeTo? ctx .connectTimeout = some c') :
    c'.phase = .over ∧ ∃ since delay, c.phase = .dialling since delay ∧
      since + ctx.config.connectTimeout.nanos < ctx.now := by
  cases hp : c.phase with
  | dialling since delay =>
    rw [seeTo?_of_dialling hp, dial?] at h
    split at h
    · rename_i hlate
      cases h
      exact ⟨phase_connectFailed _ c, since, delay, rfl, hlate.2.2⟩
    · cases h
  | live s =>
    have hattend := attend?_of_seeTo? hp (by simp) h
    cases hattend
  | _ => simp [seeTo?, hp] at h

theorem late_of_silence (h : c.seeTo? ctx .silence = some c') :
    c'.phase = .over ∧ ∃ s, c.phase = .live s ∧ s.ping.isSome = true ∧
      s.lastHeard + ctx.config.pongTimeout.nanos < ctx.now := by
  cases hp : c.phase with
  | live s =>
    have hattend := attend?_of_seeTo? hp (by simp) h
    rw [attend?] at hattend
    split at hattend
    · rename_i hlate
      cases hattend
      exact ⟨phase_endedBy ctx _ c, s, rfl, hlate⟩
    · cases hattend
  | _ => simp [seeTo?, dial?, hp] at h

theorem late_of_closeTimeout (h : c.seeTo? ctx .closeTimeout = some c') :
    c'.phase = .over ∧ ∃ s deadline, c.phase = .live s ∧ s.closeDeadline = some deadline ∧
      deadline < ctx.now := by
  cases hp : c.phase with
  | live s =>
    have hattend := attend?_of_seeTo? hp (by simp) h
    rw [attend?] at hattend
    split at hattend
    · rename_i hlate
      cases hattend
      obtain ⟨deadline, hdeadline, hpast⟩ := (Option.any_eq_true _ _).mp hlate
      exact ⟨phase_endedBy ctx _ c, s, deadline, rfl, hdeadline, of_decide_eq_true hpast⟩
    · cases hattend
  | _ => simp [seeTo?, dial?, hp] at h

end Ready

/-! ### Connections without timers -/

/-- An open connection with no timer running and nothing to take in or to send. -/
structure Untimed (c : Connection) : Prop where
  session : ∃ s, c.phase = .live s ∧ s.ping = none ∧ s.closeDeadline = none
  writable : c.writable = false
  inbound : c.wire.inbound = []

/-- As long as the clock reaches, such a driver has nothing to do. -/
theorem Untimed.not_progress {b : Bridge} {c c' : Connection} (h : c.Untimed)
    (hpunctual : ∀ s, c.phase = .live s → c.Punctual b s)
    (hreach : b.ClockReaches c.config.profile) : ¬Progress b.context c c' := by
  obtain ⟨⟨s, hp, hping, hdeadline⟩, hw, hin⟩ := h
  have hsame : ∀ {t : Session}, c.phase = .live t → t = s := fun ht =>
    Phase.live.inj (ht.symm.trans hp)
  have hattempt : ∀ {t : Session} {f : OutboundFrame} {before after : Connection},
      c.phase = .live t → ¬Attempt b.context c t f before after := by
    intro t f before after ht ha
    cases hsame ht
    cases ha with
    | text _ writable | close _ writable | audio _ writable => simp [hw] at writable
    | ping _ timer => simp [hping] at timer
  intro hprogress
  cases hprogress with
  | refused _ _ phase | opened _ phase => simp [hp] at phase
  | spent _ writable | quiet _ _ writable => simp [hw] at writable
  | sent _ phase attempt | lost _ phase attempt => exact hattempt phase attempt
  | discarded _ inbound | taken _ _ inbound | heard _ inbound
  | ended _ _ inbound => simp [hin] at inbound
  | expired _ phase cause =>
    cases hsame phase
    rcases cause with ⟨_, hsome, _⟩ | ⟨_, deadline, hsome, _⟩
    · simp [hping] at hsome
    · simp [hdeadline] at hsome
  | broken phase cause =>
    cases hsame phase
    rcases cause with hfar | ⟨_, htimer, _⟩
    · rw [(hpunctual s hp).inReach hreach] at hfar
      cases hfar
    · simp [hping] at htimer

end Connection

namespace Bridge

/-- Without actions an idle loop stays idle. -/
theorem wake_move {b : Bridge} {m : Move} (hm : m.action? = none)
    (h : b.queues.wake = false) : (b.move m).queues.wake = false := by
  have hquiet : ∀ id call, m ≠ .act (.call id call) := by
    rintro id call rfl
    cases hm
  have hrunning : m = .act .shutdown → b.queues.stopped = true := by
    rintro rfl
    cases hm
  rw [queues_move hquiet (fun _ _ => h) hrunning]
  exact h

/-- The passing of time leaves a connection without timers as it is. -/
theorem find?_of_untimed {id : String} {c : Connection} (huntimed : c.Untimed)
    (later : List Move) (hlater : ∀ m ∈ later, m.action? = none) {b : Bridge}
    (hb : ∀ c ∈ b.roster, c.Standing b.queues.stopped ∧ c.Wired) (hwake : b.queues.wake = false)
    (hpunctual : ∀ s, c.phase = .live s → c.Punctual b s)
    (hreach : (b.play later).ClockReaches c.config.profile) (hc : b.find? id = some c) :
    (b.play later).find? id = some c := by
  induction later generalizing b with
  | nil => exact hc
  | cons m later ih =>
    have hm := hlater m List.mem_cons_self
    refine ih (fun m' hm' => hlater m' (List.mem_cons_of_mem _ hm')) (wired_move hb m)
      (wake_move hm hwake) (fun s hp => ?_) hreach ?_
    · exact (hpunctual s hp).later (config_move b m) (now_move b m ▸ Nat.le_add_right _ _) rfl
    · obtain ⟨c', hc', hchange⟩ := find?_move_of_some (fun d hd => (hb d hd).1) hc m
      suffices hsame : c' = c by rw [hc', hsame]
      cases hchange with
      | call | unheld | other | far | cut => cases hm
      | takenUp _ wake =>
        rw [hwake] at wake
        cases wake
      | progress _ progress => exact absurd progress (huntimed.not_progress hpunctual hreach.of_play)
      | spared => rfl

end Bridge

/-- Within the reach of the clock no deadline has passed at rest: not that of a wire that is being opened,
counted from the moment it was asked for; not that of an open connection with pings, counted from the moment
the far end was last heard; not that of an open connection whose close frame is out, counted from the moment
it went out. A timer ends a connection only after its deadline. An open connection with neither pings nor a
close frame is left as it is by any amount of time. All of this holds in whatever order the drivers see to
what is ready. After a scenario the bridge is at rest. -/
theorem timers_neither_early_nor_late (config : ServiceConfig) :
    (∀ (moves : List Move) (id : String) (c : Connection),
      (Bridge.play { config } moves).find? id = some c →
      let b := Bridge.play { config } moves
      let last sign := Bridge.lastTime id sign config moves
      let period := c.config.profile.keepaliveInterval config.keepalive
      b.queues.stopped = false → b.ClockReaches c.config.profile →
      (b.AtRest →
        (c.state = .connecting →
          ∃ t, last Connection.begins = some t ∧ b.now ≤ t + config.connectTimeout.nanos) ∧
        (c.state = .connected ∨ c.state = .disconnecting →
          (period.isSome →
            ∃ t, last Connection.hears = some t ∧ b.now ≤ t + config.pongTimeout.nanos) ∧
          (.close ∈ c.wire.sent →
            ∃ t, last Connection.closes = some t ∧ b.now ≤ t + config.closeTimeout.nanos) ∧
          (period = none → .close ∉ c.wire.sent →
            (∀ later : List Move, (∀ m ∈ later, m.action? = none) →
              (b.play later).ClockReaches c.config.profile → (b.play later).find? id = some c) ∧
            ∀ jumps, (b.advance jumps).ClockReaches c.config.profile →
              (b.advance jumps).find? id = some c))) ∧
      ∀ c',
        (c.seeTo? b.context .connectTimeout = some c' → c'.phase = .over ∧
          ∃ t, last Connection.begins = some t ∧ t + config.connectTimeout.nanos < b.now) ∧
        (c.seeTo? b.context .silence = some c' → c'.phase = .over ∧ period.isSome ∧
          ∃ t, last Connection.hears = some t ∧ t + config.pongTimeout.nanos < b.now) ∧
        (c.seeTo? b.context .closeTimeout = some c' → c'.phase = .over ∧
          ∃ t, last Connection.closes = some t ∧ t + config.closeTimeout.nanos < b.now)) ∧
    (∀ steps : List Step,
      ∃ moves, (Bridge.run { config } steps).2 = Bridge.play { config } moves ∧
        ((Bridge.run { config } steps).2.queues.stopped = false →
          (Bridge.run { config } steps).2.AtRest)) := by
  constructor
  · intro moves id c hc b last period hrunning hreach
    have hconfig : b.config = config := Bridge.config_play _ moves
    have hkept := Bridge.wired_play config moves
    have hmem := List.mem_of_find?_eq_some hc
    obtain ⟨hstanding, hwired⟩ := hkept c hmem
    change c.Standing b.queues.stopped at hstanding
    rw [hrunning] at hstanding
    obtain ⟨hdial, hheard, hclosed⟩ := Bridge.clocked_play hc
    have hpinging : ∀ s, c.phase = .live s → s.ping.isSome = period.isSome := fun s hp => by
      have hperiod := congrArg Option.isSome (Bridge.period_play hc hp)
      rwa [Option.isSome_map, Option.isSome_map] at hperiod
    refine ⟨fun hrest => ⟨fun hs => ?connecting, fun hs => ?opened⟩,
      fun c' => ⟨fun hsee => ?_, fun hsee => ?_, fun hsee => ?_⟩⟩
    case connecting =>
      obtain ⟨since, delay, hp⟩ := hstanding.exists_dialling hs
      have hnow := Connection.now_le_of_dialling hp (hrest.seeTo? hc)
      exact ⟨since, hdial since delay hp, hconfig ▸ hnow⟩
    case opened =>
      obtain ⟨s, hp⟩ :=
        hstanding.live_of_state hs (Bridge.isDriven_of_state hmem hrunning hreach hs)
      obtain ⟨hw, hin, _, hsilence, hclose⟩ := Connection.rest_of_live hp (hrest.seeTo? hc)
      refine ⟨fun hperiod => ?_, fun hmem => ?_, fun hperiod hnot => ?_⟩
      · exact ⟨s.lastHeard, hheard s hp, hconfig ▸ hsilence ((hpinging s hp).trans hperiod)⟩
      · obtain ⟨deadline, hdeadline⟩ :=
          Option.isSome_iff_exists.mp ((hclosed.isSome_iff hwired hp).mpr hmem)
        obtain ⟨t, ht, rfl⟩ := hclosed.exists_last hp hdeadline
        exact ⟨t, ht, hclose _ hdeadline⟩
      · have hping : s.ping = none :=
          Option.not_isSome_iff_eq_none.mp (by rw [hpinging s hp, hperiod]; decide)
        have hdeadline : s.closeDeadline = none :=
          Option.not_isSome_iff_eq_none.mp (mt (hclosed.isSome_iff hwired hp).mp hnot)
        have hleft : ∀ later : List Move, (∀ m ∈ later, m.action? = none) →
            (b.play later).ClockReaches c.config.profile → (b.play later).find? id = some c :=
          fun later hlater hreach =>
            Bridge.find?_of_untimed ⟨⟨s, hp, hping, hdeadline⟩, hw, hin⟩ later hlater hkept
              hrest.wake (Bridge.keepsTime_play hc).punctual hreach hc
        refine ⟨hleft, fun jumps => ?_⟩
        obtain ⟨passing, hpassing, hadvance⟩ := Bridge.exists_play_advance b jumps
        rw [hadvance]
        exact hleft _ (List.filterMap_eq_nil_iff.mp hpassing)
    · obtain ⟨hover, since, delay, hp, hlate⟩ := Connection.late_of_connectTimeout hsee
      exact ⟨hover, since, hdial since delay hp, hconfig ▸ hlate⟩
    · obtain ⟨hover, s, hp, hping, hlate⟩ := Connection.late_of_silence hsee
      exact ⟨hover, (hpinging s hp).symm.trans hping, s.lastHeard, hheard s hp, hconfig ▸ hlate⟩
    · obtain ⟨hover, s, deadline, hp, hdeadline, hlate⟩ := Connection.late_of_closeTimeout hsee
      obtain ⟨t, ht, rfl⟩ := hclosed.exists_last hp hdeadline
      exact ⟨hover, t, ht, hlate⟩
  · intro steps
    obtain ⟨⟨moves, hreached⟩, hrest⟩ := Bridge.stilled_run config steps
    exact ⟨moves, hreached, hrest⟩

/-- A wire opens, and with the first ping the time of the next pong runs. -/
def ponging : List Move :=
  [.act (.create "a" { sessionId := "a", host := "far", audioCapacity := 8, headerReserve := 2 }
      none),
    .act (.call "a" .connect), .loop, .errand 0 .dial, .wait 20000000001, .errand 0 .ping,
    .errand 0 .arrival]

/-- The far end answers no more. -/
def fallingSilent : List Move :=
  [.act (.autoPong false), .wait 60000000001]

/-- The same as a scenario. -/
def pongingInSteps : List Step :=
  [.acts [.create "a" { sessionId := "a", host := "far", audioCapacity := 8, headerReserve := 2 } none,
      .call "a" .connect],
    .advance [20000000001]]

theorem timers_neither_early_nor_late_ponging :
    (∃ t, Bridge.lastTime "a" Connection.hears {} ponging = some t ∧
      (Bridge.play { config := {} } ponging).now ≤ t + 60000000000) ∧
    (∃ t, Bridge.lastTime "a" Connection.hears {} (ponging ++ fallingSilent) = some t ∧
      t + 60000000000 < (Bridge.play { config := {} } (ponging ++ fallingSilent)).now) ∧
    (Bridge.run { config := {} } pongingInSteps).2.AtRest := by
  have hrest : (Bridge.play { config := {} } ponging).AtRest := by decide +kernel
  have hrunning : (Bridge.play { config := {} } ponging).queues.stopped = false := by
    decide +kernel
  have hopen : ∀ c ∈ (Bridge.play { config := {} } ponging).roster, c.state = .connected ∧
      (c.config.profile.keepaliveInterval (some (.ofSecs 20))).isSome ∧
        (Bridge.play { config := {} } ponging).ClockReaches c.config.profile := by decide +kernel
  have hsome : ((Bridge.play { config := {} } ponging).find? "a").isSome = true := by
    decide +kernel
  have hrunning' : (Bridge.play { config := {} } (ponging ++ fallingSilent)).queues.stopped =
      false := by decide +kernel
  have hsilent : ∀ c ∈ (Bridge.play { config := {} } (ponging ++ fallingSilent)).roster,
      (c.seeTo? (Bridge.play { config := {} } (ponging ++ fallingSilent)).context
        .silence).isSome = true ∧ (Bridge.play { config := {} } (ponging ++ fallingSilent)).ClockReaches
          c.config.profile := by decide +kernel
  have hsome' : ((Bridge.play { config := {} } (ponging ++ fallingSilent)).find? "a").isSome =
      true := by decide +kernel
  obtain ⟨c, hc⟩ := Option.isSome_iff_exists.mp hsome
  obtain ⟨d, hd⟩ := Option.isSome_iff_exists.mp hsome'
  obtain ⟨hs, hperiod, hreach⟩ := hopen c (List.mem_of_find?_eq_some hc)
  obtain ⟨hready, hreach'⟩ := hsilent d (List.mem_of_find?_eq_some hd)
  obtain ⟨d', hsee⟩ := Option.isSome_iff_exists.mp hready
  have hpinged := (timers_neither_early_nor_late {}).1 ponging "a" c hc hrunning hreach
  have hdue := (timers_neither_early_nor_late {}).1 (ponging ++ fallingSilent) "a" d hd hrunning' hreach'
  obtain ⟨_, _, hstill⟩ := (timers_neither_early_nor_late {}).2 pongingInSteps
  exact ⟨((hpinged.1 hrest).2 (.inl hs)).1 hperiod, ((hdue.2 d').2.1 hsee).2.2,
    hstill (by decide +kernel)⟩

end VoiceBridge
