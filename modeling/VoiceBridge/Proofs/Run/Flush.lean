import VoiceBridge.Proofs.Connection.Owed
import VoiceBridge.Proofs.Run.Clock

/-!
# What the bridge sends until it is settled

The bridge goes on by itself, without a call and in no time (`Move.isOwn`). A turn that leaves
something to do keeps its permit, in whatever order the drivers see to things, so that in a settled bridge
nothing is owed (`owed_of_settled`) and what was owed has been sent (`flushed_play`).

No arrival or timer comes in between if none that ends the connection waits, or if turns go first
(`TurnsFirst`), as they do with `settle`.
-/

namespace VoiceBridge

/-- The moves that the loop and the drivers make by themselves, without a call and in no time. -/
def Move.isOwn : Move → Bool
  | .loop | .errand _ _ => true
  | _ => false

namespace Bridge

theorem queues_errand (b : Bridge) (n : Nat) (e : Errand) :
    (b.move (.errand n e)).queues = b.queues := by
  unfold move
  dsimp only
  split <;> rfl

theorem stopped_move_of_own {m : Move} (hown : m.isOwn = true) (b : Bridge) :
    (b.move m).queues.stopped = b.queues.stopped := by
  cases m with
  | errand n e => rw [queues_errand]
  | loop =>
    unfold move
    dsimp only
    split
    · rfl
    · exact stopped_loopRound b
  | _ => cases hown

theorem context_move {m : Move} (hown : m.isOwn = true) (b : Bridge) :
    (b.move m).context = b.context := by
  have hquiet : m.action? = none ∧ m.nanos = 0 := by
    cases m with
    | errand | loop => exact ⟨rfl, rfl⟩
    | _ => cases hown
  unfold context
  rw [config_move, network_move, now_move, hquiet.1, hquiet.2]
  rfl

/-! ### Sends that fail -/

/-- A send on the connection of the name fails. -/
def failsToSend (id : String) (b : Bridge) : Move → Bool
  | .errand n e => (b.find? id).any fun c => b.roster[n]? == some c && c.sendFails b.context e
  | _ => false

/-- On a wire without a fault no send fails. -/
theorem along_of_faultless {b : Bridge} {id : String} {c : Connection} {later : List Move}
    (hb : ∀ c ∈ b.roster, c.Standing b.queues.stopped ∧ c.Wired) (hrunning : b.queues.stopped = false)
    (hc : b.find? id = some c) (hbegun : c.phase ≠ .absent) (hfaultless : c.wire.faults.failAfter = none)
    (hown : ∀ m ∈ later, m.isOwn = true) : b.Along (fun b m => b.failsToSend id m = false) later := by
  induction later generalizing b c with
  | nil => trivial
  | cons m later ih =>
    have hstanding := (hb c (List.mem_of_find?_eq_some hc)).1
    obtain ⟨c', hc', hchange⟩ := find?_move_of_some (fun c hc => (hb c hc).1) hc m
    have hkept : c'.phase ≠ .absent ∧ c'.wire.faults.failAfter = none := by
      cases hchange with
      | progress _ progress =>
        rw [progress.faults]
        exact ⟨progress.isBegun.elim (fun ⟨s, hp⟩ => by simp [hp]) fun hp => by simp [hp], hfaultless⟩
      | takenUp =>
        obtain ⟨_, _, _, heq, _, hcases⟩ := takenUp_cases b c
        rw [heq]
        rcases hcases with rfl | ⟨_, hidle, _⟩
        · exact ⟨hbegun, hfaultless⟩
        · exact absurd (hstanding.of_idle hidle).1 hbegun
      | spared => exact ⟨hbegun, hfaultless⟩
      | _ => cases hown _ List.mem_cons_self
    refine ⟨?_, ih (wired_move hb m) ?_ hc' hkept.1 hkept.2 fun m hm =>
      hown m (List.mem_cons_of_mem _ hm)⟩
    · cases m with
      | errand n e =>
        cases hfails : c.sendFails b.context e with
        | false => simp [failsToSend, hc, hfails]
        | true =>
          have hfault := Connection.sendFault?_of_sendFails (hrunning ▸ hstanding) hfails
          simp [Wire.sendFault?, hfaultless] at hfault
      | _ => rfl
    · exact (stopped_move_of_own (hown m List.mem_cons_self) b).trans hrunning

/-! ### Flushing -/

/-- What the bridge does by itself ends a connection only if nothing is owed. -/
theorem flushing_change {b : Bridge} {c c' d : Connection} {m : Move} (hown : m.isOwn = true)
    (hstanding : c.Standing b.queues.stopped) (hwired : c.Wired) (hchange : Change b c m c')
    (hend : c'.phase = .over → c.owed = []) (h : d.Flushing c) : d.Flushing c' := by
  cases hchange with
  | progress running progress =>
    rw [running] at hstanding
    exact h.progress hstanding hwired hend progress
  | takenUp =>
    obtain ⟨_, _, _, heq, _, hcases⟩ := takenUp_cases b c
    rw [heq] at hend ⊢
    rcases hcases with rfl | ⟨_, hidle, rfl⟩
    · rcases h.begun with hp | ⟨s, hp⟩
      · exact h.finish (Connection.owed_of_over hp) hp rfl (.inl rfl)
      · exact h.keep hp hp rfl rfl rfl rfl
    · have habsent := (hstanding.of_idle hidle).1
      rcases h.begun with hp | ⟨s, hp⟩ <;> simp [habsent] at hp
  | spared => exact h
  | _ => cases hown

/-- The driver ends the connection only if nothing is owed, as long as no send fails and the clock reaches:
nothing else threatens the connection, or turns go first. -/
theorem owed_eq_nil_of_end {b : Bridge} {id : String} {c c' : Connection} {m : Move}
    (hown : m.isOwn = true) (hc : b.find? id = some c) (hstanding : c.Standing b.queues.stopped)
    (hwired : c.Wired) (hvigilant : b.Vigilant) (hsound : b.failsToSend id m = false)
    (hcalm : c.Unthreatened b.now b.config.pongTimeout ∨ b.TurnsFirst m) (hchange : Change b c m c')
    (hkeeps : c.KeepsTime b) (hreach : b.ClockReaches c.config.profile) (hover : c'.phase = .over) :
    c.owed = [] := by
  cases hp : c.phase with
  | live s =>
    cases hchange with
    | @progress n e _ running progress place ready =>
      rw [running] at hstanding
      have hcut := (hkeeps.progress hwired progress).2 hreach
      rcases Connection.ends_cases hstanding hp ready hover hcut with hfails | ⟨hother, hthreat⟩
      · simp [failsToSend, hc, place, hfails] at hsound
      · obtain ⟨hwake, hturn⟩ := hcalm.resolve_left hthreat
        have hw : c.writable = false := by
          have hnone := hturn hother c place
          rw [Connection.seeTo?_of_live hp ((hkeeps.punctual s hp).inReach hreach)] at hnone
          simpa [Connection.attend?] using hnone
        obtain ⟨hconnects, hdisconnects, hwrites⟩ := hvigilant.queues_eq_nil hwake
        exact ((hvigilant.watched _ c hc).idle hstanding hwired hconnects hdisconnects hwrites
          fun _ => hw).owed_eq_nil hstanding
    | takenUp =>
      obtain ⟨_, _, _, heq, _, hcases⟩ := takenUp_cases b c
      rw [heq] at hover
      rcases hcases with rfl | ⟨_, _, rfl⟩
      · simp [hp] at hover
      · cases hover
    | spared => simp [hp] at hover
    | _ => cases hown
  | _ => simp [Connection.owed, hp]

/-- No move of the bridge itself threatens a connection to which something is owed. -/
theorem unthreatened_change {b : Bridge} {c c' : Connection} {m : Move} (hown : m.isOwn = true)
    {s : Session} (hp : c.phase = .live s) (hstanding : c.Standing b.queues.stopped)
    (hwired : c.Wired) (hchange : Change b c m c') (h : c.Unthreatened b.now b.config.pongTimeout) :
    c'.owed = [] ∨ c'.Unthreatened b.now b.config.pongTimeout := by
  cases hchange.passage hstanding with
  | driven running _ progress =>
    rw [running] at hstanding
    have hnow : c.Unthreatened b.context.now b.context.config.pongTimeout := h
    rcases hnow.progress hwired hp progress with hover | hmem | hsafe
    · exact .inl (Connection.owed_of_over hover)
    · exact .inl (Connection.owed_of_close_mem (hstanding.progress progress)
        (hwired.progress hstanding progress) hmem)
    · exact .inr hsafe
  | dialled _ before => simp [hp] at before
  | left phase _ _ inbound =>
    have hphase : c'.phase = c.phase := phase.resolve_right fun ⟨hm, _⟩ => by subst hm; cases hown
    have hin : c'.wire.inbound = c.wire.inbound :=
      inbound.resolve_right fun ⟨_, hm, _⟩ => by subst hm; cases hown
    exact .inr ⟨hin ▸ h.inbound, hphase ▸ h.silence, hphase ▸ h.closeTimeout⟩

/-- A connection that is flushed while the bridge goes on by itself, in time and within the reach of the
clock. -/
structure FlushedInTime (b : Bridge) (d c : Connection) : Prop where
  flushing : d.Flushing c
  keepsTime : c.KeepsTime b
  reaches : b.ClockReaches c.config.profile

theorem FlushedInTime.move {b : Bridge} {c c' d : Connection} {m : Move} (h : FlushedInTime b d c)
    (hown : m.isOwn = true) (hstanding : c.Standing b.queues.stopped) (hwired : c.Wired)
    (hchange : Change b c m c') (hend : c'.phase = .over → c.owed = []) :
    FlushedInTime (b.move m) d c' := by
  refine ⟨flushing_change hown hstanding hwired hchange hend h.flushing,
    keepsTime_move hstanding hwired hchange h.keepsTime, ?_⟩
  have hcontext := context_move hown b
  rw [hchange.config hstanding]
  exact h.reaches.before (config_move b m).symm (Nat.le_of_eq (congrArg LoopContext.now hcontext))

/-- From any point on at which the connection of a name is open, what it owes is sent in order while the
bridge goes on by itself, as long as no send fails. -/
theorem flushing_play {b : Bridge} {id : String} {d : Connection} {s : Session}
    {later : List Move} (hb : ∀ c ∈ b.roster, c.Standing b.queues.stopped ∧ c.Wired)
    (hd : b.find? id = some d) (hp : d.phase = .live s) (hkeeps : d.KeepsTime b)
    (hreach : b.ClockReaches d.config.profile) (hown : ∀ m ∈ later, m.isOwn = true)
    (hvigilant : b.Along (fun b _ => b.Vigilant) later)
    (hsound : b.Along (fun b m => b.failsToSend id m = false) later)
    (hcalm : d.Unthreatened b.now b.config.pongTimeout ∨ b.Along TurnsFirst later) :
    ∃ c, (b.play later).find? id = some c ∧ d.Flushing c := by
  have hbegun : d.phase = .over ∨ ∃ s, d.phase = .live s := .inr ⟨s, hp⟩
  have hallowed := along_and.mpr ⟨along_of_forall hown b, along_and.mpr ⟨hvigilant, hsound⟩⟩
  rcases hcalm with hsafe | hfirst
  · have hplay := exists_play_along
      (P := fun b c => FlushedInTime b d c ∧
        (c.owed = [] ∨ c.Unthreatened b.now b.config.pongTimeout))
      (fun {b m c c'} hM hc hc' hstanding hwired hchange h => by
        obtain ⟨hown, hvigilant, hsound⟩ := hM
        obtain ⟨htimely, hguard⟩ := h
        have hend : c'.phase = .over → c.owed = [] := fun hover =>
          hguard.elim (fun hnone => hnone) fun hsafe =>
            owed_eq_nil_of_end hown hc hstanding hwired hvigilant hsound (.inl hsafe) hchange
              htimely.keepsTime htimely.reaches hover
        have hstep := flushing_change hown hstanding hwired hchange hend (.refl htimely.flushing.begun)
        have hcontext := context_move hown b
        have hnow : (b.move m).now = b.now := congrArg LoopContext.now hcontext
        refine ⟨htimely.move hown hstanding hwired hchange hend, ?_⟩
        rw [hnow, config_move]
        rcases hguard with hnone | hsafe
        · exact .inl (hstep.owed_eq_nil hnone)
        · rcases htimely.flushing.begun with hover | ⟨s, hp⟩
          · exact .inl (hstep.owed_eq_nil (Connection.owed_of_over hover))
          · exact unthreatened_change hown hp hstanding hwired hchange hsafe)
      later hallowed hb hd ⟨⟨.refl hbegun, hkeeps, hreach⟩, .inr hsafe⟩
    obtain ⟨c, hc, htimely, _⟩ := hplay
    exact ⟨c, hc, htimely.flushing⟩
  · obtain ⟨c, hc, htimely⟩ := exists_play_along (P := fun b c => FlushedInTime b d c)
      (fun {b m c c'} hM hc hc' hstanding hwired hchange h =>
        h.move hM.1.1 hstanding hwired hchange
          (owed_eq_nil_of_end hM.1.1 hc hstanding hwired hM.1.2.1 hM.1.2.2 (.inr hM.2) hchange
            h.keepsTime h.reaches))
      later (along_and.mpr ⟨hallowed, hfirst⟩) hb hd ⟨.refl hbegun, hkeeps, hreach⟩
    exact ⟨c, hc, htimely.flushing⟩

/-! ### To settle -/

/-- To settle is to go on by itself, turns first. -/
theorem exists_own_settle (b : Bridge) :
    ∃ later : List Move, (∀ m ∈ later, m.isOwn = true) ∧ b.Along TurnsFirst later ∧
      b.settle = b.play later := by
  obtain ⟨todo, hsettle, hturns⟩ := exists_errands_settle b
  refine ⟨.loop :: errands todo, ?_, ⟨trivial, hturns⟩, hsettle⟩
  intro m hm
  rcases List.mem_cons.mp hm with rfl | hm
  · rfl
  · obtain ⟨_, _, rfl⟩ := List.mem_map.mp hm
    rfl

/-- In a settled bridge there is nothing left to do. -/
theorem idle_of_settled {config : ServiceConfig} {moves : List Move} {id : String}
    {c : Connection} (hc : (play { config } moves).find? id = some c)
    (hrunning : (play { config } moves).queues.stopped = false)
    (h : (play { config } moves).Settled) : c.Idle := by
  have hvigilant := vigilant_play config moves hrunning
  obtain ⟨hstanding, hwired⟩ := wired_play config moves c (List.mem_of_find?_eq_some hc)
  rw [hrunning] at hstanding
  obtain ⟨hconnects, hdisconnects, hwrites⟩ := hvigilant.queues_eq_nil h.wake
  exact (hvigilant.watched _ c hc).idle hstanding hwired hconnects hdisconnects hwrites
    (h.writable c (List.mem_of_find?_eq_some hc))

/-- In a settled bridge nothing is owed. -/
theorem owed_of_settled {config : ServiceConfig} {moves : List Move} {id : String}
    {c : Connection} (hc : (play { config } moves).find? id = some c)
    (hrunning : (play { config } moves).queues.stopped = false)
    (h : (play { config } moves).Settled) : c.owed = [] :=
  (idle_of_settled hc hrunning h).owed_eq_nil
    (wired_play config moves c (List.mem_of_find?_eq_some hc)).1

end Bridge

namespace Connection

/-- Apart from pings the far end has received what waited on the open connection `c`, and nothing else. -/
def Flushed (c c' : Connection) : Prop :=
  ∃ new, c'.wire.sent = c.wire.sent ++ new ∧
    (c.state = .connected →
      new.filter (!·.isPing) =
        c.outbox ++ (if c.audio.pending = [] then [] else [.binary c.audio.pending]) ∧
      c'.audio.pending = []) ∧
    (c.state = .disconnecting → .close ∉ c.wire.sent →
      new.filter (!·.isPing) = c.outbox ++ [.close] ∧ c'.audio.pending = [])

theorem Flushing.flushed {c c' : Connection} {s : Session} (h : c.Flushing c') (hp : c.phase = .live s)
    (hnone : c'.owed = []) : c.Flushed c' := by
  obtain ⟨new, hnew, hframes⟩ := h.frames
  rw [hnone, List.append_nil] at hframes
  refine ⟨new, hnew, fun hs => ?_, fun hs hnot => ?_⟩
  · rw [owed_of_connected hp hs] at hframes
    refine ⟨hframes, ?_⟩
    rcases h.audio with hpending | ⟨hsame, howed⟩
    · exact hpending
    · have hempty := howed hnone
      rw [owed_of_connected hp hs] at hempty
      rw [hsame]
      by_contra hsome
      simp [audioLeft, hsome] at hempty
  · have howes : c.owed = c.outbox ++ [.close] := by
      rw [owed_of_disconnecting hp hs, leftToSend, if_neg hnot]
    rw [howes] at hframes
    refine ⟨hframes, ?_⟩
    rcases h.audio with hpending | ⟨_, howed⟩
    · exact hpending
    · have hempty := howed hnone
      rw [howes] at hempty
      simp at hempty

end Connection

namespace Bridge

theorem stopped_play_of_own {later : List Move} (hown : ∀ m ∈ later, m.isOwn = true)
    (b : Bridge) : (b.play later).queues.stopped = b.queues.stopped := by
  induction later generalizing b with
  | nil => rfl
  | cons m later ih =>
    rw [play_cons, ih (fun m hm => hown m (List.mem_cons_of_mem _ hm)),
      stopped_move_of_own (hown m List.mem_cons_self)]

/-- While the bridge goes on by itself it looks after all requests. -/
theorem along_vigilant {config : ServiceConfig} {moves later : List Move}
    (hrunning : (play { config } moves).queues.stopped = false)
    (hown : ∀ m ∈ later, m.isOwn = true) :
    (play { config } moves).Along (fun b _ => b.Vigilant) later := by
  induction later generalizing moves with
  | nil => trivial
  | cons m later ih =>
    have hstopped := stopped_move_of_own (hown m List.mem_cons_self) (play { config } moves)
    refine ⟨vigilant_play config moves hrunning, ?_⟩
    rw [← play_concat] at hstopped ⊢
    exact ih (hstopped.trans hrunning) fun m hm => hown m (List.mem_cons_of_mem _ hm)

/-- To go on by itself until the bridge is settled is to send what is owed. -/
theorem flushed_play {config : ServiceConfig} {moves later : List Move} {id : String}
    {c : Connection} {s : Session} (hrunning : (play { config } moves).queues.stopped = false)
    (hc : (play { config } moves).find? id = some c) (hp : c.phase = .live s)
    (hown : ∀ m ∈ later, m.isOwn = true)
    (hreach : (play { config } moves).ClockReaches c.config.profile)
    (hsound : (play { config } moves).Along (fun b m => b.failsToSend id m = false) later)
    (hcalm : c.Unthreatened (play { config } moves).now (play { config } moves).config.pongTimeout ∨
      (play { config } moves).Along TurnsFirst later)
    (hsettled : ((play { config } moves).play later).Settled) :
    ∃ c', ((play { config } moves).play later).find? id = some c' ∧ c.Flushed c' := by
  obtain ⟨c', hc', hflush⟩ := flushing_play (wired_play config moves) hc hp (keepsTime_play hc) hreach
    hown (along_vigilant hrunning hown) hsound hcalm
  refine ⟨c', hc', hflush.flushed hp ?_⟩
  have hstopped := (stopped_play_of_own hown (play { config } moves)).trans hrunning
  rw [← play_append] at hc' hstopped hsettled
  exact owed_of_settled hc' hstopped hsettled

end Bridge

/-- While the bridge goes on by itself until it is settled, and no send fails, the far end of an open
connection receives, apart from pings, the outbox in order and then all audio that waits in one frame, or
the close frame in place of the audio if the connection is disconnecting. This holds within the reach of the
clock, and in whatever order the driver sees to turns, arrivals and pings, if no arrival that ends the
connection waits and no time has run out; and it holds in any case where turns go first, as with `settle`. A
turn sends at most one frame, and no audio while the outbox is not empty. -/
theorem settling_sends_what_waits (config : ServiceConfig) (moves : List Move) (id : String)
    (c : Connection) (s : Session)
    (hrunning : (Bridge.play { config } moves).queues.stopped = false)
    (hc : (Bridge.play { config } moves).find? id = some c) (hp : c.phase = .live s)
    (hreach : (Bridge.play { config } moves).ClockReaches c.config.profile) :
    let b := Bridge.play { config } moves
    (∀ later : List Move, (∀ m ∈ later, m.isOwn = true) → (b.play later).Settled →
      b.Along (fun b m => b.failsToSend id m = false) later →
      ((∀ a ∈ c.wire.inbound, a.ending? = none) ∧ c.seeTo? b.context .silence = none ∧
        c.seeTo? b.context .closeTimeout = none ∨ b.Along Bridge.TurnsFirst later) →
      ∃ c', (b.play later).find? id = some c' ∧ c.Flushed c') ∧
    b.settle.Settled ∧
    (∃ later : List Move, (∀ m ∈ later, m.isOwn = true) ∧ b.Along Bridge.TurnsFirst later ∧
      b.settle = b.play later) ∧
    (c.wire.faults.failAfter = none → ∃ c', b.settle.find? id = some c' ∧ c.Flushed c') ∧
    ∀ ctx c', c.seeTo? ctx .turn = some c' →
      ∃ frames, c'.wire.sent = c.wire.sent ++ frames ∧ frames.length ≤ 1 ∧
        ∀ f ∈ frames, ∀ g rest, c.outbox = g :: rest → f = g ∧ f.audio? = none := by
  intro b
  have hkept := Bridge.wired_play config moves
  have hsettled : b.settle.Settled := Bridge.settled_settle hkept hrunning
  obtain ⟨own, hown, hfirst, hsettle⟩ := Bridge.exists_own_settle b
  refine ⟨fun later hown hsettled hsound hcalm => ?_, hsettled, ⟨own, hown, hfirst, hsettle⟩,
    fun hfaultless => ?_, fun ctx c' hsee => ?_⟩
  · have hpunctual := (Bridge.keepsTime_play hc).punctual s hp
    have hattend := Connection.seeTo?_of_live hp (hpunctual.inReach hreach)
    refine Bridge.flushed_play hrunning hc hp hown hreach hsound (hcalm.imp_left fun h => ?_) hsettled
    obtain ⟨hinbound, hsilence, hclose⟩ := h
    rw [hattend] at hsilence hclose
    refine ⟨hinbound, fun t ht => ?_, fun t ht => ?_⟩ <;> cases Phase.live.inj (hp.symm.trans ht)
    · exact Connection.attend?_silence_eq_none.mp hsilence
    · exact Connection.attend?_closeTimeout_eq_none.mp hclose
  · have hsound := Bridge.along_of_faultless hkept hrunning hc (by simp [hp]) hfaultless hown
    change ∃ c', (Bridge.play { config } moves).settle.find? id = some c' ∧ c.Flushed c'
    rw [hsettle] at hsettled ⊢
    exact Bridge.flushed_play hrunning hc hp hown hreach hsound (.inr hfirst) hsettled
  · obtain ⟨hstanding, hwired⟩ := hkept c (List.mem_of_find?_eq_some hc)
    rw [hrunning] at hstanding
    exact Connection.sent_of_turn hstanding hwired hsee

/-- A text and audio wait on an open connection, and something of the far end. -/
def laden : List Move :=
  [.act (.create "a" { sessionId := "a", host := "far", audioCapacity := 8, headerReserve := 2 }
      none),
    .act (.call "a" .connect), .loop, .wait 1, .errand 0 .dial, .act (.call "a" (.text "one")),
    .act (.call "a" (.audio [[1, 2, 3]] none)), .act (.far "a" (.send [.heartbeat]))]

/-- The arrival is taken in before the turns. -/
def unloading : List Move :=
  [.errand 0 .arrival, .loop, .errand 0 .turn, .errand 0 .turn]

theorem settling_sends_what_waits_laden :
    ∃ c c' settled, (Bridge.play { config := {} } laden).find? "a" = some c ∧
      c.outbox = [.text "one"] ∧ c.audio.pending = [1, 2, 3] ∧
      (Bridge.play (Bridge.play { config := {} } laden) unloading).find? "a" = some c' ∧
      c.Flushed c' ∧
      (Bridge.play { config := {} } laden).settle.find? "a" = some settled ∧
      c.Flushed settled := by
  have hsome : ((Bridge.play { config := {} } laden).find? "a").isSome = true := by decide +kernel
  have hladen : ∀ c ∈ (Bridge.play { config := {} } laden).roster,
      c.outbox = [.text "one"] ∧ c.audio.pending = [1, 2, 3] ∧ c.isLive = true ∧
        c.wire.faults.failAfter = none ∧ (∀ a ∈ c.wire.inbound, a.ending? = none) ∧
        c.seeTo? (Bridge.play { config := {} } laden).context .silence = none ∧
        c.seeTo? (Bridge.play { config := {} } laden).context .closeTimeout = none ∧
        (Bridge.play { config := {} } laden).ClockReaches c.config.profile := by decide +kernel
  have hsettled : (Bridge.play (Bridge.play { config := {} } laden) unloading).Settled :=
    ⟨by decide +kernel, by decide +kernel⟩
  have hsound : (Bridge.play { config := {} } laden).Along
      (fun b m => b.failsToSend "a" m = false) unloading :=
    ⟨by decide +kernel, by decide +kernel, by decide +kernel, by decide +kernel, trivial⟩
  obtain ⟨c, hc⟩ := Option.isSome_iff_exists.mp hsome
  obtain ⟨houtbox, hpending, hlive, hfaultless, hinbound, hsilence, hclose, hreach⟩ :=
    hladen c (List.mem_of_find?_eq_some hc)
  obtain ⟨s, hp⟩ := Connection.isLive_iff.mp hlive
  have hflush := settling_sends_what_waits {} laden "a" c s (by decide +kernel) hc hp hreach
  obtain ⟨c', hc', hflushed⟩ := hflush.1 unloading (by decide) hsettled hsound
    (.inl ⟨hinbound, hsilence, hclose⟩)
  obtain ⟨settled, hfound, hflushed'⟩ := hflush.2.2.2.1 hfaultless
  exact ⟨c, c', settled, hc, houtbox, hpending, hc', hflushed, hfound, hflushed'⟩

end VoiceBridge
