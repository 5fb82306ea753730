import VoiceBridge.Proofs.Connection.Beat
import VoiceBridge.Proofs.Run.Along

/-!
# Within the reach of the clock

A driver breaks down where the clock cannot tell what it has to wait for. `ClockReaches` says that this is
not to be feared by now: the pings leave some time between them, and whatever deadline a driver could set at
this moment, the clock can tell it. No deadline was set later than that (`Punctual`), so no driver has been
cut off while the service runs (`not_cutOff`), and none will be by what it sees to next.
-/

namespace VoiceBridge

namespace Bridge

/-- The clock can tell every deadline that the driver of a connection with this profile sets by now, and
pings are some time apart. -/
structure ClockReaches (b : Bridge) (profile : Profile) : Prop where
  ping : ∀ period ∈ profile.keepaliveInterval b.config.keepalive,
    0 < period.nanos ∧ b.now + period.nanos < clockEnd
  silence : b.now + b.config.pongTimeout.nanos < clockEnd
  reply : b.now + b.config.closeTimeout.nanos < clockEnd
  opening : b.now + b.config.connectTimeout.nanos < clockEnd
  horizon : b.now + farFuture < clockEnd

instance (b : Bridge) (profile : Profile) : Decidable (b.ClockReaches profile) :=
  decidable_of_iff
    ((∀ period ∈ profile.keepaliveInterval b.config.keepalive,
        0 < period.nanos ∧ b.now + period.nanos < clockEnd) ∧
      b.now + b.config.pongTimeout.nanos < clockEnd ∧
      b.now + b.config.closeTimeout.nanos < clockEnd ∧
      b.now + b.config.connectTimeout.nanos < clockEnd ∧ b.now + farFuture < clockEnd)
    ⟨fun h => ⟨h.1, h.2.1, h.2.2.1, h.2.2.2.1, h.2.2.2.2⟩,
      fun h => ⟨h.ping, h.silence, h.reply, h.opening, h.horizon⟩⟩

/-- What the clock can tell from now on it could tell before. -/
theorem ClockReaches.before {b b' : Bridge} {profile : Profile} (h : b'.ClockReaches profile)
    (hconfig : b'.config = b.config) (hnow : b.now ≤ b'.now) : b.ClockReaches profile where
  ping period hp := by
    have hping := h.ping period (hconfig ▸ hp)
    exact ⟨hping.1, by omega⟩
  silence := by
    have hsilence := h.silence
    rw [hconfig] at hsilence
    omega
  reply := by
    have hreply := h.reply
    rw [hconfig] at hreply
    omega
  opening := by
    have hopening := h.opening
    rw [hconfig] at hopening
    omega
  horizon := by
    have hhorizon := h.horizon
    omega

theorem now_le_play (b : Bridge) (moves : List Move) : b.now ≤ (b.play moves).now := by
  induction moves generalizing b with
  | nil => exact Nat.le_refl _
  | cons m moves ih =>
    have hrest := ih (b.move m)
    rw [now_move] at hrest
    rw [play_cons]
    omega

theorem ClockReaches.of_play {b : Bridge} {moves : List Move} {profile : Profile}
    (h : (b.play moves).ClockReaches profile) : b.ClockReaches profile :=
  h.before (config_play b moves) (now_le_play b moves)

theorem ClockReaches.of_move {b : Bridge} {m : Move} {profile : Profile}
    (h : (b.move m).ClockReaches profile) : b.ClockReaches profile := by
  have hplay : (b.play [m]).ClockReaches profile := h
  exact hplay.of_play

end Bridge

namespace Connection

/-- No deadline of the driver is later than one that it could set by now. -/
structure Punctual (b : Bridge) (c : Connection) (s : Session) : Prop where
  heard : s.lastHeard ≤ b.now
  reply : ∀ deadline ∈ s.closeDeadline, deadline ≤ b.now + b.config.closeTimeout.nanos
  ping : ∀ p ∈ s.ping, p.next ≤ b.now + p.period
  period : s.ping.map (·.period) = (c.config.profile.keepaliveInterval b.config.keepalive).map Span.nanos

variable {b : Bridge} {c c' : Connection} {s : Session}

theorem Punctual.interval (h : c.Punctual b s) {p : PingTimer} (hp : s.ping = some p) :
    ∃ period ∈ c.config.profile.keepaliveInterval b.config.keepalive, p.period = period.nanos := by
  have hperiod := h.period
  rw [hp, Option.map_some] at hperiod
  obtain ⟨period, hmem, heq⟩ := Option.map_eq_some_iff.mp hperiod.symm
  exact ⟨period, hmem, heq.symm⟩

/-- The clock can tell all that a punctual driver waits for. -/
theorem Punctual.inReach (h : c.Punctual b s) (hreach : b.ClockReaches c.config.profile) :
    s.inReach b.context = true := by
  have hsilence : s.lastHeard + b.config.pongTimeout.nanos < clockEnd :=
    Nat.lt_of_le_of_lt (Nat.add_le_add_right h.heard _) hreach.silence
  have hreply : s.closeDeadline.getD (b.now + farFuture) < clockEnd := by
    cases hdeadline : s.closeDeadline with
    | none => exact hreach.horizon
    | some deadline => exact Nat.lt_of_le_of_lt (h.reply deadline hdeadline) hreach.reply
  have hping : s.ping.all PingTimer.inReach = true := by
    cases htimer : s.ping with
    | none => rfl
    | some p =>
      obtain ⟨period, hmem, hperiod⟩ := h.interval htimer
      have htold := hreach.ping period hmem
      have hnext := h.ping p htimer
      rw [Option.all_some, PingTimer.inReach, Bool.and_eq_true, decide_eq_true_eq, decide_eq_true_eq]
      omega
  simp only [Session.inReach, Bridge.context, hsilence, hreply, hping, decide_true, Bool.and_self]

/-- It could also tell the ping after one that is due. -/
theorem Punctual.ticked (h : c.Punctual b s) (hreach : b.ClockReaches c.config.profile) {p : PingTimer}
    (hp : s.ping = some p) (hdue : p.next < b.now) : (p.ticked b.now).next < clockEnd := by
  obtain ⟨period, hmem, hperiod⟩ := h.interval hp
  have htold := hreach.ping period hmem
  unfold PingTimer.ticked
  dsimp only
  split <;> omega

/-- A driver is cut off by its own doing only where the clock could not tell a deadline. -/
theorem Progress.cause_of_cutOff {ctx : LoopContext} (h : Progress ctx c c') (hcut : c'.CutOff) :
    ∃ s, c.phase = .live s ∧ (s.inReach ctx = false ∨
      ∃ p, s.ping = some p ∧ p.next < ctx.now ∧ clockEnd ≤ (p.ticked ctx.now).next) := by
  have hover := hcut.phase
  have hnone := hcut.outcome
  cases h with
  | broken phase cause => exact ⟨_, phase, cause⟩
  | sent log phase attempt => cases attempt <;> simp_all [turned]
  | refused | lost | ended | expired => simp [finished] at hnone
  | opened | discarded | taken | heard => cases hover
  | spent phase | quiet _ phase => simp_all [turned]

theorem Punctual.unbroken (h : c.Punctual b s) (hp : c.phase = .live s)
    (hreach : b.ClockReaches c.config.profile) (hprogress : Progress b.context c c') : ¬c'.CutOff := by
  intro hcut
  obtain ⟨s', hp', hcause⟩ := hprogress.cause_of_cutOff hcut
  rw [hp] at hp'
  cases hp'
  rcases hcause with hfar | ⟨p, htimer, hdue, hlate⟩
  · rw [h.inReach hreach] at hfar
    cases hfar
  · exact absurd (h.ticked hreach htimer hdue) (Nat.not_lt.mpr hlate)

/-- Time goes on for a driver that does nothing. -/
theorem Punctual.later {b' : Bridge} (h : c.Punctual b s) (hconfig : b'.config = b.config)
    (hnow : b.now ≤ b'.now) (hsame : c'.config = c.config) : c'.Punctual b' s where
  heard := Nat.le_trans h.heard hnow
  reply deadline hd := by
    have hreply := h.reply deadline hd
    rw [hconfig]
    omega
  ping p hp := by
    have hping := h.ping p hp
    omega
  period := by
    rw [hconfig, hsame]
    exact h.period

/-- Whatever a driver does with its deadlines, it sets none later than it may. -/
theorem Punctual.beat {s' : Session} (h : c.Punctual b s) (hbeat : Beat b.context c s c' s')
    (hsame : c'.config = c.config) : c'.Punctual b s' := by
  have hkept : c'.Punctual b s := h.later rfl (Nat.le_refl _) hsame
  cases hbeat with
  | same => exact hkept
  | closing =>
    refine ⟨h.heard, fun deadline hd => ?_, h.ping, hkept.period⟩
    cases hd
    exact Nat.le_refl _
  | @pinged p _ timer due =>
    refine ⟨h.heard, h.reply, fun q hq => ?_, ?_⟩
    · have hdue : p.next < b.now := due
      change some (p.ticked b.now) = some q at hq
      cases hq
      unfold PingTimer.ticked
      dsimp only
      split <;> omega
    · have hperiod := hkept.period
      rw [timer] at hperiod
      exact hperiod
  | heard => exact ⟨Nat.le_refl _, h.reply, h.ping, hkept.period⟩

theorem punctual_begin (b : Bridge) (c c' : Connection) (hsame : c'.config = c.config) :
    c'.Punctual b (.begin b.context c.config) where
  heard := Nat.le_refl _
  reply _ hd := by cases hd
  ping p hp := by
    obtain ⟨period, _, rfl⟩ := Option.map_eq_some_iff.mp hp
    exact Nat.le_refl _
  period := by
    rw [hsame]
    unfold Session.begin
    dsimp only [Bridge.context]
    cases c.config.profile.keepaliveInterval b.config.keepalive <;> rfl

/-- A driver that is at work is punctual, and one that was cut off had a deadline that the clock could not
tell. -/
structure KeepsTime (b : Bridge) (c : Connection) : Prop where
  punctual : ∀ s, c.phase = .live s → c.Punctual b s
  intact : b.queues.stopped = false → b.ClockReaches c.config.profile → ¬c.CutOff

theorem KeepsTime.progress (h : c.KeepsTime b) (hwired : c.Wired) (hp : Progress b.context c c') :
    (∀ s, c'.phase = .live s → c'.Punctual b s) ∧
      (b.ClockReaches c.config.profile → ¬c'.CutOff) := by
  refine ⟨fun s' hp' => ?_, fun hreach hcut => ?_⟩
  · rcases hp.beat hwired hp' with ⟨s, hlive, hbeat⟩ | ⟨_, rfl, _⟩
    · exact (h.punctual s hlive).beat hbeat hp.config
    · exact punctual_begin b c c' hp.config
  · obtain ⟨s, hlive, _⟩ := hp.cause_of_cutOff hcut
    exact (h.punctual s hlive).unbroken hlive hreach hp hcut

/-- A new connection has no driver. -/
theorem KeepsTime.of_create {id : String} {config : ConnectionConfig} {panicsOn : Option String}
    (h : Connection.create id config panicsOn = .ok c) : c.KeepsTime b := by
  obtain ⟨audio, -, rfl⟩ := create_eq h
  exact ⟨fun s hp => (by cases hp), fun _ _ hcut => (by cases hcut.phase)⟩

/-- While the service runs, an open or a closing connection has its driver, unless that was cut off. -/
theorem Standing.isDriven_of_state (h : c.Standing false) (hwhole : ¬c.CutOff)
    (hs : c.state = .connected ∨ c.state = .disconnecting) : c.isDriven = true := by
  cases h with
  | connected _ phase | disconnecting _ phase => simp [isDriven, phase]
  | cutLive phase _ outcome => exact absurd ⟨phase, outcome⟩ hwhole
  | dropped _ state => rcases hs with hs | hs <;> rcases state with state | state <;> simp_all
  | _ => rcases hs with hs | hs <;> simp_all

end Connection

namespace Bridge

/-- What a move makes of a driver that keeps time. -/
theorem keepsTime_move {b : Bridge} {c c' : Connection} {m : Move}
    (hstanding : c.Standing b.queues.stopped) (hwired : c.Wired) (hchange : Change b c m c')
    (h : c.KeepsTime b) : c'.KeepsTime (b.move m) := by
  have hconfig := config_move b m
  have hnow : b.now ≤ (b.move m).now := by rw [now_move]; omega
  -- What neither starts nor drives a driver leaves its session and, while the service runs, its outcome.
  have hleft : ∀ {d : Connection}, d.config = c.config → (∀ s, d.phase = .live s → c.phase = .live s) →
      ((b.move m).queues.stopped = false → d.CutOff → c.CutOff) → d.KeepsTime (b.move m) :=
    fun hsame hphase hcut =>
      ⟨fun s hp => (h.punctual s (hphase s hp)).later hconfig hnow hsame,
        fun hrunning hreach hd => h.intact (running_of_move hrunning)
          (ClockReaches.of_move (m := m) (hsame ▸ hreach)) (hcut hrunning hd)⟩
  cases hchange with
  | @call call =>
    have hframe := Connection.CallFrame.perform c b.queues call
    exact hleft hframe.config (fun s hp => hframe.phase ▸ hp)
      fun _ hd => ⟨hframe.phase ▸ hd.phase, hframe.outcome ▸ hd.outcome⟩
  | @far call =>
    obtain ⟨_, _, hfar⟩ := c.farCall_eq call
    rw [hfar]
    exact hleft rfl (fun s hp => hp) fun _ hd => ⟨hd.phase, hd.outcome⟩
  | takenUp running =>
    obtain ⟨d, _, _, heq, _, rfl | ⟨_, _, rfl⟩⟩ := takenUp_cases b c
    · rw [heq]
      exact hleft rfl (fun s hp => hp) fun _ hd => ⟨hd.phase, hd.outcome⟩
    · rw [heq]
      exact ⟨fun s hp => (by cases hp), fun _ _ hd => (by cases hd.phase)⟩
  | progress running progress =>
    obtain ⟨hpunctual, hintact⟩ := h.progress hwired progress
    refine ⟨fun s hp => (hpunctual s hp).later hconfig hnow rfl, fun _ hreach => hintact ?_⟩
    exact ClockReaches.of_move (progress.config ▸ hreach)
  | cut running =>
    refine hleft rfl (fun s hp => ?_) fun hrunning _ => ?_
    · dsimp only at hp
      split at hp
      · cases hp
      · exact hp
    · rw [stopped_move_shutdown] at hrunning
      cases hrunning
  | unheld | other | spared => exact hleft rfl (fun s hp => hp) fun _ hd => hd

/-- Where every driver keeps time, a move lets each go on so. -/
theorem keepsTime_of_move {b : Bridge} (hb : ∀ c ∈ b.roster, c.Standing b.queues.stopped ∧ c.Wired)
    (htime : ∀ id c, b.find? id = some c → c.KeepsTime b) (m : Move) (id : String) (c' : Connection)
    (hc' : (b.move m).find? id = some c') : c'.KeepsTime (b.move m) := by
  cases hc : b.find? id with
  | none =>
    obtain ⟨_, _, _, hcreate⟩ := find?_move_of_none (fun d hd => (hb d hd).1) hc hc'
    exact .of_create hcreate
  | some c =>
    obtain ⟨hstanding, hwired⟩ := hb c (List.mem_of_find?_eq_some hc)
    exact keepsTime_move hstanding hwired (change_of_find? (fun d hd => (hb d hd).1) hc hc')
      (htime id c hc)

/-- Every driver keeps time. -/
theorem keepsTime_play {config : ServiceConfig} {moves : List Move} {id : String} {c : Connection}
    (hc : (play { config } moves).find? id = some c) : c.KeepsTime (play { config } moves) :=
  holds_of_play (P := fun b c => c.KeepsTime b)
    (fun _ _ _ hstanding hwired hchange h => keepsTime_move hstanding hwired hchange h)
    .of_create config moves (along_true _ _) hc

/-- As long as the service runs and the clock reaches, no driver has been cut off. -/
theorem not_cutOff {config : ServiceConfig} {moves : List Move} {c : Connection}
    (hc : c ∈ (play { config } moves).roster)
    (hrunning : (play { config } moves).queues.stopped = false)
    (hreach : (play { config } moves).ClockReaches c.config.profile) : ¬c.CutOff := by
  rcases (Apart.play config moves).find? hc with hfind | hun
  · exact (keepsTime_play hfind).intact hrunning hreach
  · exact fun hcut => absurd (hun.phase.symm.trans hcut.phase) (by simp)

-- Beyond the reach of the clock one is: no time is to pass between these pings.
example :
    (play { config := { keepalive := some ⟨0⟩ } }
      [.act (.create "a"
          { sessionId := "a", host := "far", audioCapacity := 8, headerReserve := 2 } none),
        .act (.call "a" .connect), .loop, .errand 0 .dial, .errand 0 .reckon]).roster.map
      (fun c => (c.state, c.events, c.isDriven)) = [(.connected, [.connectSuccess], false)] := by
  decide +kernel

/-- Neither will it be by what it sees to next. -/
theorem not_cutOff_of_seeTo? {config : ServiceConfig} {moves : List Move} {c c' : Connection}
    (hc : c ∈ (play { config } moves).roster)
    (hreach : (play { config } moves).ClockReaches c.config.profile) {e : Errand}
    (hsee : c.seeTo? (play { config } moves).context e = some c') : ¬c'.CutOff := by
  obtain ⟨hstanding, hwired⟩ := wired_play config moves c hc
  have hprogress := Connection.progress_of_seeTo? hstanding hsee
  rcases (Apart.play config moves).find? hc with hfind | hun
  · exact ((keepsTime_play hfind).progress hwired hprogress).2 hreach
  · simp [Connection.seeTo?, hun.phase] at hsee

/-- As long as the service runs and the clock reaches, an open or a closing connection has its driver. -/
theorem isDriven_of_state {config : ServiceConfig} {moves : List Move} {c : Connection}
    (hc : c ∈ (play { config } moves).roster)
    (hrunning : (play { config } moves).queues.stopped = false)
    (hreach : (play { config } moves).ClockReaches c.config.profile)
    (hs : c.state = .connected ∨ c.state = .disconnecting) : c.isDriven = true := by
  have hstanding := (wired_play config moves c hc).1
  rw [hrunning] at hstanding
  exact hstanding.isDriven_of_state (not_cutOff hc hrunning hreach) hs

end Bridge

end VoiceBridge
