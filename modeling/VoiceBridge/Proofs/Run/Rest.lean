import VoiceBridge.Proofs.Run.Clock
import VoiceBridge.Proofs.Run.WakeUp

/-!
# The bridge at rest

A scenario settles the bridge after each of its steps, and a bridge that has settled has nothing left
to do (`rested_run`, `no_lost_wakeup`). A turn that was asked for is taken up by the loop before any
driver moves. So no connection is left marked for a turn, not even one that nobody has any more.
-/

namespace VoiceBridge

namespace Bridge

/-- Within the reach of the clock only connections at which a driver is at work are marked for a turn. -/
def Flagged (b : Bridge) : Prop :=
  ∀ id c, b.find? id = some c → b.ClockReaches c.config.profile → c.writeQueued = true →
    c.isDriven = true

/-- Within the reach of the clock no connection that can be reached is marked for a turn. -/
def Unflagged (b : Bridge) : Prop :=
  ∀ id c, b.find? id = some c → b.ClockReaches c.config.profile → c.writeQueued = false

theorem Unflagged.flagged {b : Bridge} (h : b.Unflagged) : b.Flagged := by
  intro id c hc hreach hq
  rw [h id c hc hreach] at hq
  cases hq

theorem flagged_takenUp {b : Bridge} {c : Connection} (h : c.writeQueued = true → c.isDriven = true) :
    (b.takenUp c).writeQueued = true → (b.takenUp c).isDriven = true := by
  obtain ⟨d, _, _, heq, hqueued, hcases⟩ := takenUp_cases b c
  rw [heq]
  intro hq
  rcases hcases with rfl | ⟨_, _, rfl⟩
  · exact h (hqueued hq)
  · rfl

theorem flagged_change {b : Bridge} {c c' : Connection} {m : Move} (hm : ∀ n e, m ≠ .errand n e)
    (hrunning : (b.move m).queues.stopped = false)
    (hdriven : c.state = .connected → c.isDriven = true)
    (h : c.writeQueued = true → c.isDriven = true) (hchange : Change b c m c') :
    c'.writeQueued = true → c'.isDriven = true := by
  cases hchange with
  | @call call =>
    have hframe := Connection.CallFrame.perform c b.queues call
    intro hq
    rw [Connection.isDriven, hframe.phase]
    rcases hframe.writeQueued with hsame | hconn
    · exact h (hsame ▸ hq)
    · exact hdriven hconn
  | @far call =>
    obtain ⟨_, _, hfar⟩ := c.farCall_eq call
    rw [hfar]
    exact h
  | takenUp => exact flagged_takenUp h
  | progress => exact absurd rfl (hm _ _)
  | cut =>
    rw [stopped_move_shutdown] at hrunning
    cases hrunning
  | _ => exact h

/-- Calls and the loop mark driven connections only. -/
theorem Flagged.move {config : ServiceConfig} {moves : List Move} {m : Move}
    (h : (play { config } moves).Flagged) (hm : ∀ n e, m ≠ .errand n e)
    (hrunning : (play { config } (moves ++ [m])).queues.stopped = false) :
    (play { config } (moves ++ [m])).Flagged := by
  have hb := Connection.standing_kept.play config moves
  have hbefore : ∀ {profile : Profile}, (play { config } (moves ++ [m])).ClockReaches profile →
      (play { config } moves).ClockReaches profile := by
    rw [play_concat]
    exact ClockReaches.of_move
  have hnext := play_concat { config } moves m
  have hs : (play { config } moves).queues.stopped = false := running_of_move (hnext ▸ hrunning)
  intro id c' hc' hreach
  rw [hnext] at hc' hrunning
  cases hc : (play { config } moves).find? id with
  | none =>
    obtain ⟨_, _, _, hcreate⟩ := find?_move_of_none hb hc hc'
    intro hq
    rw [(Unreached.of_create hcreate).writeQueued] at hq
    cases hq
  | some c =>
    have hmem := List.mem_of_find?_eq_some hc
    have hchange := change_of_find? hb hc hc'
    have hreach := hchange.config (hb c hmem) ▸ hbefore hreach
    exact flagged_change hm hrunning (fun hconn => isDriven_of_state hmem hs hreach (.inl hconn))
      (h id c hc hreach) hchange

theorem Flagged.acts (actions : List Action) {config : ServiceConfig} {moves : List Move}
    (h : (play { config } moves).Flagged)
    (hrunning : (play { config } (moves ++ actions.map .act)).queues.stopped = false) :
    (play { config } (moves ++ actions.map .act)).Flagged := by
  induction actions generalizing moves with
  | nil => simpa using h
  | cons action rest ih =>
    have hsplit : moves ++ (action :: rest).map Move.act =
        (moves ++ [.act action]) ++ rest.map .act := by simp
    rw [hsplit] at hrunning ⊢
    refine ih (h.move (by simp) ?_) hrunning
    rw [play_append] at hrunning
    exact running_of_play hrunning

/-- Where no request waits, no connection is marked. -/
theorem Flagged.unflagged {b : Bridge} (h : b.Flagged) (hv : b.Vigilant)
    (hwake : b.queues.wake = false) : b.Unflagged := by
  intro id c hc hreach
  have hwrites := (hv.queues_eq_nil hwake).2.2
  cases hq : c.writeQueued with
  | false => rfl
  | true =>
    have halive : c.isAlive = true := by simp [Connection.isAlive, h id c hc hreach hq]
    have hcount := (hv.watched id c hc).2.1.writes halive
    simp [hwrites, hq] at hcount

/-- Without calls no connection is marked. -/
theorem Unflagged.move {b : Bridge} {m : Move} (hb : ∀ c ∈ b.roster, c.Standing b.queues.stopped)
    (h : b.Unflagged) (hm : m.action? = none) : (b.move m).Unflagged := by
  intro id c' hc' hreach
  cases hc : b.find? id with
  | none =>
    obtain ⟨_, _, _, hcreate⟩ := find?_move_of_none hb hc hc'
    exact (Unreached.of_create hcreate).writeQueued
  | some c =>
    have hchange := change_of_find? hb hc hc'
    have hconfig := hchange.config (hb c (List.mem_of_find?_eq_some hc))
    have hq := h id c hc (hconfig ▸ hreach.of_move)
    cases hchange with
    | call | unheld | other | far | cut => cases hm
    | takenUp =>
      obtain ⟨_, _, writeQueued, heq, hqueued, _⟩ := takenUp_cases b c
      rw [heq]
      cases writeQueued with
      | true => rw [hqueued rfl] at hq; cases hq
      | false => rfl
    | progress _ progress => exact progress.writeQueued.trans hq
    | spared => exact hq

theorem Unflagged.play (moves : List Move) {b : Bridge}
    (hb : ∀ c ∈ b.roster, c.Standing b.queues.stopped) (h : b.Unflagged)
    (hmoves : moves.filterMap Move.action? = []) : (b.play moves).Unflagged := by
  induction moves generalizing b with
  | nil => exact h
  | cons m moves ih =>
    cases hm : m.action? with
    | some action => simp [hm] at hmoves
    | none =>
      rw [List.filterMap_cons_none hm] at hmoves
      exact ih (Connection.standing_kept.move hb m) (h.move hb hm) hmoves

/-! ### Scenarios -/

/-- A bridge after a play, settled and without marks as long as it runs. -/
structure Rested (config : ServiceConfig) (b : Bridge) : Prop where
  reached : ∃ moves, b = play { config } moves
  settled : b.queues.stopped = false → b.Settled
  unflagged : b.queues.stopped = false → b.Unflagged

/-- To settle gives rest. -/
theorem Rested.settle {config : ServiceConfig} {moves : List Move}
    (h : (play { config } moves).queues.stopped = false → (play { config } moves).Flagged) :
    (play { config } moves).settle.Rested config := by
  obtain ⟨drives, hdrives, hsettle⟩ := exists_play_settle (play { config } moves)
  have hloop := play_concat { config } moves .loop
  have hreached : (play { config } moves).settle = play { config } (moves ++ .loop :: drives) := by
    rw [hsettle, play_split]
  refine ⟨⟨_, hreached⟩, fun hs => ?_, fun hs => ?_⟩
  · exact settled_settle (wired_play config moves) ((stopped_settle _).symm.trans hs)
  · rw [hsettle, ← hloop] at hs ⊢
    have hrunning := running_of_play hs
    have hbefore : (play { config } moves).queues.stopped = false :=
      running_of_move (hloop ▸ hrunning)
    have hflagged := (h hbefore).move (by simp) hrunning
    have hunflagged := hflagged.unflagged (vigilant_play config _ hrunning)
      (hloop ▸ wake_move_loop hbefore)
    exact hunflagged.play drives (Connection.standing_kept.play config _) hdrives

theorem Rested.step {config : ServiceConfig} {b : Bridge} (h : b.Rested config) (step : Step) :
    (b.step step).2.Rested config := by
  cases step with
  | acts actions =>
    obtain ⟨moves, rfl⟩ := h.reached
    have hreached : ((play { config } moves).actAll actions).2 =
        play { config } (moves ++ actions.map .act) := by rw [actAll_eq, play_append]
    change ((play { config } moves).actAll actions).2.settle.Rested config
    rw [hreached]
    refine .settle fun hs => ?_
    exact (h.unflagged (running_of_play (play_append _ _ _ ▸ hs))).flagged.acts actions hs
  | advance jumps =>
    change (jumps.foldl jump b).Rested config
    induction jumps generalizing b with
    | nil => exact h
    | cons nanos rest ih =>
      obtain ⟨moves, rfl⟩ := h.reached
      refine ih ?_
      rw [jump_play]
      refine .settle fun hs => ?_
      have hbefore : (play { config } moves).queues.stopped = false :=
        running_of_play (play_append _ _ _ ▸ hs)
      exact (h.unflagged hbefore).flagged.move (by simp) hs

/-- The bridge is at rest after every scenario. -/
theorem rested_run (config : ServiceConfig) (steps : List Step) :
    (run { config } steps).2.Rested config := by
  have hrun : ∀ (steps : List Step) {b : Bridge}, b.Rested config → (b.run steps).2.Rested config := by
    intro steps
    induction steps with
    | nil => exact fun h => h
    | cons step rest ih => exact fun h => ih (h.step step)
  refine hrun steps ⟨⟨[], rfl⟩, fun _ => ⟨rfl, fun _ hc => (List.not_mem_nil hc).elim⟩, ?_⟩
  intro _ id c hc
  simp [find?] at hc

end Bridge

/-- As long as the bridge runs, whatever there is to do for a driver has been asked for and what
has been asked for is on its way: by a permit, by a place in a queue or, where a queue holds
something, by the wake-up of the loop. So in a settled bridge there is nothing to do, and after a
scenario no connection is marked for a turn. Within the reach of the clock every open and every closing
connection has its driver. -/
theorem no_lost_wakeup (config : ServiceConfig) :
    (∀ moves : List Move,
      let b := Bridge.play { config } moves
      b.queues.stopped = false →
      (∀ id c, b.find? id = some c →
        (c.state = .connected → c.isDriven = true → c.hasOutboundWork = true →
          c.writable = true ∨ c.writeQueued = true ∧ b.queues.writes.count id = 1) ∧
        (c.isAlive = true → b.queues.writes.count id = if c.writeQueued then 1 else 0) ∧
        (c.state = .disconnecting → c.isDriven = true →
          .close ∈ c.wire.sent ∨ c.writable = true ∨ id ∈ b.queues.disconnects)) ∧
      (∀ c ∈ b.roster, b.ClockReaches c.config.profile →
        c.state = .connected ∨ c.state = .disconnecting → c.isDriven = true) ∧
      (b.queues.connects ≠ [] ∨ b.queues.disconnects ≠ [] ∨ b.queues.writes ≠ [] →
        b.queues.wake = true) ∧
      (b.Settled → b.queues.connects = [] ∧ b.queues.disconnects = [] ∧ b.queues.writes = [] ∧
        ∀ c ∈ b.roster, c.Idle)) ∧
    ∀ steps : List Step,
      let b := (Bridge.run { config } steps).2
      b.queues.stopped = false →
      b.Settled ∧ b.queues.connects = [] ∧ b.queues.disconnects = [] ∧ b.queues.writes = [] ∧
        ∀ c ∈ b.roster, c.Idle ∧ (b.ClockReaches c.config.profile → c.writeQueued = false ∧
          (c.state = .connected ∨ c.state = .disconnecting → c.isDriven = true)) := by
  have hidle : ∀ moves : List Move, (Bridge.play { config } moves).queues.stopped = false →
      (Bridge.play { config } moves).Settled →
      (Bridge.play { config } moves).queues.connects = [] ∧
        (Bridge.play { config } moves).queues.disconnects = [] ∧
        (Bridge.play { config } moves).queues.writes = [] ∧
        ∀ c ∈ (Bridge.play { config } moves).roster, c.Idle := by
    intro moves hrunning hsettled
    obtain ⟨hconnects, hdisconnects, hwrites⟩ :=
      (Bridge.vigilant_play config moves hrunning).queues_eq_nil hsettled.wake
    exact ⟨hconnects, hdisconnects, hwrites, hsettled.idle hrunning⟩
  constructor
  · intro moves b hrunning
    have hvigilant := Bridge.vigilant_play config moves hrunning
    refine ⟨fun id c hc => ?_, fun c hc hreach => Bridge.isDriven_of_state hc hrunning hreach,
      hvigilant.heard, hidle moves hrunning⟩
    have hkept := Bridge.wired_play config moves
    rw [hrunning] at hkept
    obtain ⟨hstanding, hwired⟩ := hkept c (List.mem_of_find?_eq_some hc)
    have hid := Bridge.id_of_find? hc
    subst hid
    exact (hvigilant.watched _ c hc).underway hstanding hwired
  · intro steps b hrunning
    obtain ⟨⟨moves, hplay⟩, hsettled, hunflagged⟩ := Bridge.rested_run config steps
    change b = _ at hplay
    have hs := hsettled hrunning
    have hunflagged := hunflagged hrunning
    change b.Settled at hs
    change b.Unflagged at hunflagged
    rw [hplay] at hrunning hs hunflagged ⊢
    obtain ⟨hconnects, hdisconnects, hwrites, hquiet⟩ := hidle moves hrunning hs
    refine ⟨hs, hconnects, hdisconnects, hwrites, fun c hc => ⟨hquiet c hc, fun hreach => ⟨?_, ?_⟩⟩⟩
    · rcases (Bridge.Apart.play config moves).find? hc with hfind | hun
      · exact hunflagged _ c hfind hreach
      · exact hun.writeQueued
    · exact Bridge.isDriven_of_state hc hrunning hreach

/-- Text and audio are queued before the wire is open and after, and the bridge settles. -/
def busySteps : List Step :=
  [.acts [.create "a" { sessionId := "a", host := "far", audioCapacity := 8, headerReserve := 2 } none,
      .call "a" (.text "early"), .call "a" .connect],
    .advance [1], .acts [.call "a" (.audio [[1, 2]] (some "late"))]]

theorem no_lost_wakeup_busy :
    ∃ c ∈ (Bridge.run { config := {} } busySteps).2.roster, c.state = .connected ∧
      c.writeQueued = false ∧ c.outbox = [] ∧
      c.wire.sent = [.text "early", .text "late", .binary [1, 2]] := by
  have hrunning : (Bridge.run { config := {} } busySteps).2.queues.stopped = false := by decide +kernel
  obtain ⟨c, hc, hreach, hstate, hsent⟩ : ∃ c ∈ (Bridge.run { config := {} } busySteps).2.roster,
      (Bridge.run { config := {} } busySteps).2.ClockReaches c.config.profile ∧
      c.state = .connected ∧ c.wire.sent = [.text "early", .text "late", .binary [1, 2]] := by
    decide +kernel
  obtain ⟨hidle, hnear⟩ := ((no_lost_wakeup {}).2 busySteps hrunning).2.2.2.2 c hc
  obtain ⟨hflag, hdriven⟩ := hnear hreach
  exact ⟨c, hc, hstate, hflag, (hidle.work hstate (hdriven (.inl hstate))).1, hsent⟩

end VoiceBridge
