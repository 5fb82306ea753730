import VoiceBridge.Proofs.Connection.Calm
import VoiceBridge.Proofs.Run.LetGo

/-!
# Failing callbacks are contained

A callback that fails is stopped where it was run: the failure is noted in the log, and nothing else comes of
it. `Bridge.calm` takes the failures and the notes away, and whatever happens to a bridge, it happens to the
calm one in the same way and with the same answers (`move_calm`, `run_calm`).

A connection is made with a callback that fails on no more than one kind of events. In a `loudPlay` each
callback fails on as many kinds as one likes, and the run without failures is still the same
(`failing_callbacks_contained`).
-/

namespace VoiceBridge

/-- The same action, but a connection is made with a callback that never fails. -/
def Action.calm : Action → Action
  | .create id config _ => .create id config none
  | action => action

def Step.calm : Step → Step
  | .acts actions => .acts (actions.map Action.calm)
  | .advance jumps => .advance jumps

def Move.calm : Move → Move
  | .act action => .act action.calm
  | m => m

theorem Connection.create_calm (id : String) (config : ConnectionConfig) (panicsOn : Option String) :
    Connection.create id config none = (Connection.create id config panicsOn).map Connection.calm := by
  unfold Connection.create
  cases config.validate with
  | error e => rfl
  | ok _ => cases AudioBuffer.create config.audioCapacity config.headerReserve <;> rfl

namespace Bridge

/-- The bridge as it would be if no callback ever failed. -/
def calm (b : Bridge) : Bridge := { b with roster := b.roster.map Connection.calm }

variable (b : Bridge)

/-! ### The roster -/

theorem find?_calm (id : String) : b.calm.find? id = (b.find? id).map Connection.calm :=
  List.find?_map

theorem modifyIn_calm {f g : Connection → Connection} (h : ∀ c, g c.calm = (f c).calm) (id : String)
    (l : List Connection) :
    modifyIn id g (l.map Connection.calm) = (modifyIn id f l).map Connection.calm := by
  induction l with
  | nil => rfl
  | cons c rest ih =>
    have hid : c.calm.id = c.id := rfl
    rw [List.map_cons, modifyIn, modifyIn, hid, h, ih]
    split <;> rfl

theorem modifyEach_calm {f g : Connection → Connection} (h : ∀ c, g c.calm = (f c).calm)
    (names : List String) (l : List Connection) :
    modifyEach names g (l.map Connection.calm) = (modifyEach names f l).map Connection.calm := by
  induction names generalizing l with
  | nil => rfl
  | cons name names ih => rw [modifyEach_cons, modifyEach_cons, modifyIn_calm h, ih]

theorem modify_calm {f g : Connection → Connection} (h : ∀ c, g c.calm = (f c).calm) (n : Nat)
    (l : List Connection) :
    (l.map Connection.calm).modify n g = (l.modify n f).map Connection.calm := by
  induction l generalizing n with
  | nil => simp
  | cons c rest ih =>
    cases n with
    | zero => exact congrArg (· :: rest.map Connection.calm) (h c)
    | succ n => exact congrArg (c.calm :: ·) (ih n)

theorem put_calm (id : String) (c : Connection) (q : Requests) :
    b.calm.put id c.calm q = (b.put id c q).calm := by
  unfold put modify calm
  dsimp only
  rw [modifyIn_calm (f := fun _ => c) fun _ => rfl]

/-! ### The loop and the shutdown -/

theorem takeConnect_calm (c : Connection) : b.calm.takeConnect c.calm = (b.takeConnect c).calm := by
  have hidle : (c.calm.isAlive = true ∧ c.calm.state = .idle) = (c.isAlive = true ∧ c.state = .idle) := rfl
  by_cases h : c.isAlive = true ∧ c.state = .idle
  · obtain ⟨halive, hs⟩ := hidle.mpr h
    rw [takeConnect_of_idle h.1 h.2, takeConnect_of_idle halive hs]
    rfl
  · rw [takeConnect_of_not h, takeConnect_of_not (hidle ▸ h)]

theorem takeDisconnect_calm (c : Connection) : takeDisconnect c.calm = (takeDisconnect c).calm := by
  rw [takeDisconnect_eq, takeDisconnect_eq]
  rfl

theorem takeWrite_calm (c : Connection) : takeWrite c.calm = (takeWrite c).calm := by
  rw [takeWrite_eq, takeWrite_eq]
  rfl

theorem loopRound_calm : b.calm.loopRound = b.loopRound.calm := by
  cases hw : b.queues.wake with
  | false => rw [loopRound_of_not_wake hw, loopRound_of_not_wake (b := b.calm) hw]
  | true =>
    have hroster : b.calm.roster = b.roster.map Connection.calm := rfl
    rw [loopRound_of_wake hw, loopRound_of_wake (b := b.calm) hw, hroster,
      modifyEach_calm (takeConnect_calm b), modifyEach_calm takeDisconnect_calm,
      modifyEach_calm takeWrite_calm]
    rfl

theorem shutdown_calm : b.calm.shutdown = b.shutdown.calm := by
  cases hs : b.queues.stopped with
  | true => rw [shutdown_of_stopped hs, shutdown_of_stopped (b := b.calm) hs]
  | false =>
    have hlet : ∀ c : Connection, (if c.calm.isAlive then c.calm.abandonWaits else c.calm) =
        (if c.isAlive then c.abandonWaits else c).calm := by
      intro c
      have halive : c.calm.isAlive = c.isAlive := rfl
      rw [halive]
      split <;> rfl
    have hgone : ∀ c : Connection, (if c.calm.isDriven then c.calm.driverGone else c.calm) =
        (if c.isDriven then c.driverGone else c).calm := by
      intro c
      have hdriven : c.calm.isDriven = c.isDriven := rfl
      rw [hdriven]
      split <;> rfl
    rw [shutdown_of_not_stopped hs, shutdown_of_not_stopped (b := b.calm) hs]
    unfold calm
    dsimp only
    rw [modifyEach_calm hlet, List.map_map, List.map_map]
    congr 2
    funext c
    exact hgone c

/-! ### Actions and moves -/

/-- An action is answered alike. -/
theorem act_calm (action : Action) :
    b.calm.act action.calm = ((b.act action).1, (b.act action).2.calm) := by
  have hqueues : b.calm.queues = b.queues := rfl
  cases action with
  | create id config panicsOn =>
    unfold Action.calm act create
    dsimp only
    rw [hqueues, Connection.create_calm id config panicsOn]
    split
    · rfl
    · cases Connection.create id config panicsOn with
      | error e => rfl
      | ok c =>
        have hroster : b.calm.roster ++ [c.calm] = (b.roster ++ [c]).map Connection.calm := by
          simp [calm]
        simp only [Except.map]
        rw [hroster]
        rfl
  | call id call =>
    unfold Action.calm act
    dsimp only
    rw [find?_calm, hqueues]
    cases b.find? id with
    | none => rfl
    | some c =>
      have hheld : c.calm.held = c.held := rfl
      simp only [Option.map_some, hheld, Connection.perform_calm]
      split
      · rfl
      · exact congrArg (Prod.mk _) (put_calm b id _ _)
  | far id call =>
    unfold Action.calm act
    dsimp only
    rw [find?_calm, hqueues]
    cases b.find? id with
    | none => rfl
    | some c =>
      have hopened : c.calm.wire = c.wire := rfl
      simp only [Option.map_some, hopened, Connection.farCall_calm]
      split
      · rfl
      · exact congrArg (Prod.mk _) (put_calm b id _ _)
  | openedCount =>
    have hcount : b.calm.openedCount = b.openedCount := List.countP_map
    exact congrArg (fun n => (Answer.count n, b.calm)) hcount
  | shutdown => exact congrArg (Prod.mk _) (shutdown_calm b)
  | _ => rfl

/-- The driver in one place sees to the same in the one bridge as in the other. -/
theorem seeToOne_calm (n : Nat) (e : Errand) : b.calm.seeToOne n e = (b.seeToOne n e).calm := by
  have hcontext : b.calm.context = b.context := rfl
  have hone : ∀ c : Connection, (c.calm.seeTo? b.context e).getD c.calm =
      ((c.seeTo? b.context e).getD c).calm := by
    intro c
    rw [Connection.seeTo?_calm]
    cases c.seeTo? b.context e <;> rfl
  unfold seeToOne
  rw [hcontext]
  unfold calm
  dsimp only
  rw [modify_calm (f := fun c => (c.seeTo? b.context e).getD c) hone]

theorem move_calm (m : Move) : b.calm.move m.calm = (b.move m).calm := by
  have hqueues : b.calm.queues = b.queues := rfl
  cases m with
  | act action => exact congrArg Prod.snd (act_calm b action)
  | loop =>
    unfold Move.calm move
    dsimp only
    rw [hqueues, loopRound_calm]
    split <;> rfl
  | errand n e =>
    unfold Move.calm move
    dsimp only
    rw [hqueues, seeToOne_calm]
    split <;> rfl
  | wait nanos => rfl

/-! ### Callbacks that fail on any kinds of events -/

/-- The callback of the connection in the `n`-th place fails on the kinds of events `fails n`. -/
def withCallbacks (fails : Nat → List String) (b : Bridge) : Bridge :=
  { b with roster := b.roster.mapIdx fun n c => { c with panicsOn := fails n } }

/-- Moves one after the other and what they are answered, where the callbacks fail on the kinds of events
that `fails` lists. -/
def loudPlay (fails : Nat → List String) (b : Bridge) : List Move → List Answer × Bridge
  | [] => ([], b)
  | m :: moves =>
    let b := b.withCallbacks fails
    let (answers, after) := (b.move m).loudPlay fails moves
    (b.answered m ++ answers, after)

theorem calm_withCallbacks (fails : Nat → List String) : (b.withCallbacks fails).calm = b.calm := by
  unfold withCallbacks calm
  dsimp only
  congr 1
  apply List.ext_getElem
  · simp
  · intro n _ _
    simp [Connection.calm]

theorem answered_calm (m : Move) : b.calm.answered m.calm = b.answered m := by
  cases m with
  | act action => exact congrArg (fun r => [r.1]) (act_calm b action)
  | _ => rfl

/-- But for the lines in the log that note the failures, callbacks may fail or not. -/
theorem loudPlay_calm (fails : Nat → List String) (moves : List Move) :
    (b.loudPlay fails moves).1 = b.calm.record answered (moves.map Move.calm) ∧
      (b.loudPlay fails moves).2.calm = b.calm.play (moves.map Move.calm) := by
  induction moves generalizing b with
  | nil => exact ⟨rfl, rfl⟩
  | cons m moves ih =>
    obtain ⟨hanswers, hafter⟩ := ih ((b.withCallbacks fails).move m)
    rw [← move_calm, calm_withCallbacks] at hanswers hafter
    rw [List.map_cons, record, play_cons, ← hafter, ← hanswers, ← calm_withCallbacks b fails,
      answered_calm]
    exact ⟨rfl, rfl⟩

/-! ### Scenarios -/

theorem actAll_calm (actions : List Action) :
    b.calm.actAll (actions.map Action.calm) = ((b.actAll actions).1, (b.actAll actions).2.calm) := by
  induction actions generalizing b with
  | nil => rfl
  | cons action rest ih =>
    unfold actAll
    rw [List.map_cons]
    dsimp only
    rw [act_calm]
    dsimp only
    rw [ih]

theorem settle_calm : b.calm.settle = b.settle.calm := by
  have hdrive : ∀ b : Bridge, b.calm.driveAll = b.driveAll.calm := by
    intro b
    unfold driveAll calm
    dsimp only
    rw [List.map_map, List.map_map]
    congr 2
    funext c
    exact Connection.drive_calm b.context c
  have hqueues : b.calm.queues = b.queues := rfl
  unfold settle
  rw [hqueues, loopRound_calm, hdrive]
  split <;> rfl

theorem advance_calm (jumps : List Nat) : b.calm.advance jumps = (b.advance jumps).calm := by
  induction jumps generalizing b with
  | nil => rfl
  | cons nanos jumps ih =>
    have hjump : b.calm.jump nanos = (b.jump nanos).calm := settle_calm { b with now := b.now + nanos }
    exact (congrArg (advance · jumps) hjump).trans (ih (b.jump nanos))

/-- A scenario in which callbacks fail is answered as the one in which none does, and leaves the same but for
the lines in the log that note the failures. -/
theorem run_calm (steps : List Step) :
    b.calm.run (steps.map Step.calm) = ((b.run steps).1, (b.run steps).2.calm) := by
  induction steps generalizing b with
  | nil => rfl
  | cons step rest ih =>
    have hstep : b.calm.step step.calm = ((b.step step).1, (b.step step).2.calm) := by
      cases step with
      | acts actions =>
        unfold Step.calm Bridge.step
        dsimp only
        rw [actAll_calm]
        dsimp only
        rw [settle_calm]
      | advance jumps => exact congrArg (Prod.mk [Answer.done]) (advance_calm b jumps)
    unfold run
    rw [List.map_cons]
    dsimp only
    rw [hstep]
    dsimp only
    rw [ih]

/-- The event that ends a connection tells its outcome to all who wait. -/
theorem Change.resolves {b : Bridge} {c c' : Connection} {m : Move} {o : TerminalOutcome}
    (h : Change b c m c') (hopen : c.outcome = none)
    (hended : c'.outcome = some o) : c'.waits = (c.resolveWaits o).waits := by
  have hsame {p : Prop} (hkept : c'.outcome = c.outcome) : p := by
    rw [hkept, hopen] at hended
    cases hended
  cases h with
  | call => exact hsame (Connection.CallFrame.perform c b.queues _).outcome
  | @far call =>
    obtain ⟨_, _, hfar⟩ := c.farCall_eq call
    exact hsame (by rw [hfar])
  | takenUp =>
    obtain ⟨d, _, _, heq, _, hcases⟩ := takenUp_cases b c
    have houtcome : d.outcome = c.outcome := by
      rcases hcases with rfl | ⟨_, _, rfl⟩ <;> rfl
    exact hsame ((congrArg Connection.outcome heq).trans houtcome)
  | progress _ progress =>
    rcases progress.waits with ⟨-, hkept, -⟩ | ⟨o', hresolved, houtcome⟩ | rfl
    · exact hsame hkept
    · rw [houtcome] at hended
      cases hended
      exact hresolved
    · exact hsame rfl
  | cut | unheld | other | spared => exact hsame rfl

end Bridge

/-- Whatever kinds of events the callbacks of the connections fail on, every move is answered as in the run
without failures, and everything is as in that run but for the lines in the log that note them: what the
callbacks have received, what was sent, what those who wait were told, the states and the buffers. Whoever
waits when the last event is delivered is told the outcome, also if the callback fails on it. Scenarios with
callbacks that fail are answered as those without. -/
theorem failing_callbacks_contained (config : ServiceConfig) (moves : List Move)
    (fails : Nat → List String) (steps : List Step) :
    let loud := Bridge.loudPlay fails { config }
    let quietly := moves.map Move.calm
    let quiet := Bridge.play { config } quietly
    (loud moves).1 = Bridge.record Bridge.answered { config } quietly ∧
    (loud moves).2.calm = quiet ∧
    List.Forall₂ (fun c c' => c.SeenAlike c' ∧ c'.audio = c.audio) (loud moves).2.roster quiet.roster ∧
    (∀ before m after, moves = before ++ m :: after → ∀ (id : String) (c c' : Connection),
      (loud before).2.find? id = some c → (loud (before ++ [m])).2.find? id = some c' →
      ∀ o, c.outcome = none → c'.outcome = some o → c'.waits = (c.resolveWaits o).waits) ∧
    Bridge.run { config } (steps.map Step.calm) =
      ((Bridge.run { config } steps).1, (Bridge.run { config } steps).2.calm) := by
  intro loud quietly quiet
  have hcalm : ∀ moves, (loud moves).2.calm = Bridge.play { config } (moves.map Move.calm) :=
    fun moves => (Bridge.loudPlay_calm { config } fails moves).2
  refine ⟨(Bridge.loudPlay_calm { config } fails moves).1, hcalm moves, ?_, ?_,
    Bridge.run_calm { config } steps⟩
  · have hroster : quiet.roster = (loud moves).2.roster.map Connection.calm :=
      congrArg Bridge.roster (hcalm moves).symm
    rw [hroster, List.forall₂_map_right_iff]
    exact List.forall₂_same.mpr fun _ _ => ⟨⟨rfl, rfl, rfl, rfl, rfl⟩, rfl⟩
  · intro before m after _ id c c' hc hc' o hopen hended
    -- In the run without failures the move makes the calm connection what it made the other one.
    have hfind : (Bridge.play { config } (before.map Move.calm)).find? id = some c.calm := by
      rw [← hcalm, Bridge.find?_calm, hc, Option.map_some]
    have hfind' : ((Bridge.play { config } (before.map Move.calm)).move m.calm).find? id =
        some c'.calm := by
      have hlater := hcalm (before ++ [m])
      rw [List.map_append, List.map_singleton, Bridge.play_concat] at hlater
      rw [← hlater, Bridge.find?_calm, hc', Option.map_some]
    have hstanding := fun d hd => (Bridge.wired_play config (before.map Move.calm) d hd).1
    obtain ⟨d, hd, hchange⟩ := Bridge.find?_move_of_some hstanding hfind m.calm
    rw [hfind'] at hd
    cases hd
    have hresolved : c'.calm.waits = (c.calm.resolveWaits o).waits :=
      hchange.resolves hopen hended
    exact hresolved

/-- A connection is opened and closed, and somebody waits for its end. -/
def openedAndClosed : List Move :=
  [.act (.create "a" { sessionId := "a", host := "far" } none),
    .act (.call "a" .connect), .loop, .wait 1, .errand 0 .dial,
    .act (.call "a" .closeWithCompletion), .loop, .errand 0 .turn, .errand 0 .arrival]

/-- The callback fails on the first event and on the last, which is told all the same. -/
theorem failing_callbacks_contained_throughout :
    let loud := Bridge.loudPlay (fun _ => ["connect_success", "connection_closed_gracefully"])
      { config := {} } openedAndClosed
    ∀ d ∈ loud.2.roster, d.log.length = 2 ∧ d.waits = [.resolved .closedGracefully] := by
  intro loud d hd
  have hnoted : ∀ d ∈ loud.2.roster, d.log.length = 2 := by decide +kernel
  have hquiet : ∀ d ∈ (Bridge.play { config := {} } (openedAndClosed.map Move.calm)).roster,
      d.waits = [.resolved .closedGracefully] := by decide +kernel
  obtain ⟨-, -, hroster, -⟩ := failing_callbacks_contained {} openedAndClosed
    (fun _ => ["connect_success", "connection_closed_gracefully"]) []
  obtain ⟨d', hd', hseen, -⟩ := Bridge.exists_of_mem_forall₂ hroster.flip hd
  exact ⟨hnoted d hd, hseen.waits.symm.trans (hquiet d' hd')⟩

end VoiceBridge
