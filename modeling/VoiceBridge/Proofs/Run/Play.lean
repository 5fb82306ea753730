import VoiceBridge.Proofs.Connection.Call
import VoiceBridge.Proofs.Connection.Errand
import VoiceBridge.Proofs.Run.Roster

/-!
# Runs move by move

A scenario settles the bridge after each of its steps. Here the actions, the rounds of the event
loop, the single steps of the drivers and the passing of time are moves of their own that may come
in any order, and `play` makes a list of them. A driver sees to whatever is ready, in any order, so what
holds after every play holds of the program however its drivers choose. `record` collects what an observer
sees on the way, and `Along` asks that each move is allowed where it is made.

`KeptByMoves P` says that `P` holds of a new connection and that nothing that happens to a connection
breaks it. Then `P` holds of every connection after every play (`KeptByMoves.play`).
-/

namespace VoiceBridge

/-- The least that can happen to a bridge. -/
inductive Move where
  | act (action : Action)
  /-- The event loop makes a round, if it has been woken. -/
  | loop
  /-- The driver of the `n`-th connection sees to one thing, if it is ready. -/
  | errand (n : Nat) (e : Errand)
  /-- Time passes. -/
  | wait (nanos : Nat)
  deriving Repr, DecidableEq

/-- The action that a move makes, if it is one. -/
def Move.action? : Move → Option Action
  | .act action => some action
  | _ => none

/-- How much time a move lets pass. -/
def Move.nanos : Move → Nat
  | .wait nanos => nanos
  | .act _ | .loop | .errand _ _ => 0

/-- A connection is made with an empty buffer and all else at its beginning. -/
theorem Connection.create_eq {id : String} {config : ConnectionConfig} {panicsOn : Option String}
    {c : Connection} (h : Connection.create id config panicsOn = .ok c) :
    ∃ audio, AudioBuffer.create config.audioCapacity config.headerReserve = .ok audio ∧
      c = { id, config, panicsOn := panicsOn.toList, audio := audio.withLowSpace config.lowSpace } := by
  unfold Connection.create at h
  split at h
  · cases h
  · split at h
    · cases h
    · rename_i audio haudio
      cases h
      exact ⟨audio, haudio, rfl⟩

/-- The actions of a step. -/
def Step.actions : Step → List Action
  | .acts actions => actions
  | .advance _ => []

namespace Bridge

/-- The driver of one connection sees to one thing. -/
def seeToOne (b : Bridge) (n : Nat) (e : Errand) : Bridge :=
  { b with roster := b.roster.modify n fun c => (c.seeTo? b.context e).getD c }

/-- One move. Once the service is stopped, neither the loop nor a driver moves. -/
def move (b : Bridge) : Move → Bridge
  | .act action => (b.act action).2
  | .loop => if b.queues.stopped then b else b.loopRound
  | .errand n e => if b.queues.stopped then b else b.seeToOne n e
  | .wait nanos => { b with now := b.now + nanos }

/-- Moves one after the other. -/
def play (b : Bridge) (moves : List Move) : Bridge := moves.foldl move b

/-- What the moves of a play show to an observer, in their order. -/
def record {α : Type*} (see : Bridge → Move → List α) (b : Bridge) : List Move → List α
  | [] => []
  | m :: moves => see b m ++ (b.move m).record see moves

/-- What a move is answered, if it is an action. -/
def answered (b : Bridge) (m : Move) : List Answer :=
  (m.action?.map fun action => (b.act action).1).toList

/-- Each of the moves is allowed where it is made. -/
def Along (allowed : Bridge → Move → Prop) (b : Bridge) : List Move → Prop
  | [] => True
  | m :: moves => allowed b m ∧ (b.move m).Along allowed moves

instance Along.decidable (allowed : Bridge → Move → Prop) [∀ b m, Decidable (allowed b m)] :
    ∀ (b : Bridge) (moves : List Move), Decidable (b.Along allowed moves)
  | _, [] => .isTrue trivial
  | b, m :: moves =>
    have := Along.decidable allowed (b.move m) moves
    inferInstanceAs (Decidable (allowed b m ∧ (b.move m).Along allowed moves))

theorem move_act (b : Bridge) (action : Action) : b.move (.act action) = (b.act action).2 := rfl

@[simp] theorem play_nil (b : Bridge) : b.play [] = b := rfl

theorem play_cons (b : Bridge) (m : Move) (moves : List Move) :
    b.play (m :: moves) = (b.move m).play moves := rfl

theorem play_append (b : Bridge) (moves later : List Move) :
    b.play (moves ++ later) = (b.play moves).play later := List.foldl_append

theorem record_append {α : Type*} (see : Bridge → Move → List α) (b : Bridge)
    (moves later : List Move) :
    b.record see (moves ++ later) = b.record see moves ++ (b.play moves).record see later := by
  induction moves generalizing b with
  | nil => rfl
  | cons m moves ih =>
    rw [List.cons_append, record, record, ih, List.append_assoc]
    rfl

theorem play_concat (b : Bridge) (moves : List Move) (m : Move) :
    b.play (moves ++ [m]) = (b.play moves).move m := play_append b moves [m]

/-- A play that goes on behind a move. -/
theorem play_split (b : Bridge) (moves : List Move) (m : Move) (later : List Move) :
    b.play (moves ++ m :: later) = ((b.play moves).move m).play later :=
  play_append b moves (m :: later)

theorem along_of_forall {M : Move → Prop} :
    ∀ {moves : List Move}, (∀ m ∈ moves, M m) → ∀ b : Bridge, b.Along (fun _ => M) moves
  | [], _, _ => trivial
  | m :: _, h, b => ⟨h m List.mem_cons_self,
      along_of_forall (fun m' hm' => h m' (List.mem_cons_of_mem _ hm')) (b.move m)⟩

theorem along_and {M M' : Bridge → Move → Prop} {moves : List Move} {b : Bridge} :
    b.Along (fun b m => M b m ∧ M' b m) moves ↔ b.Along M moves ∧ b.Along M' moves := by
  induction moves generalizing b with
  | nil => simp [Along]
  | cons m moves ih =>
    simp only [Along, ih]
    exact and_and_and_comm

theorem along_true : ∀ (moves : List Move) (b : Bridge), b.Along (fun _ _ => True) moves
  | [], _ => trivial
  | m :: moves, b => ⟨trivial, along_true moves (b.move m)⟩

theorem along_append {M : Bridge → Move → Prop} {moves later : List Move} {b : Bridge} :
    b.Along M (moves ++ later) ↔ b.Along M moves ∧ (b.play moves).Along M later := by
  induction moves generalizing b with
  | nil => simp [Along]
  | cons m moves ih => simp [Along, ih, play_cons, and_assoc]

theorem move_errand_of_running {b : Bridge} (h : b.queues.stopped = false) (n : Nat) (e : Errand) :
    b.move (.errand n e) = b.seeToOne n e := by simp [move, h]

theorem move_errand_of_stopped {b : Bridge} (h : b.queues.stopped = true) (n : Nat) (e : Errand) :
    b.move (.errand n e) = b := by simp [move, h]

/-! ### Single actions -/

theorem act_create (b : Bridge) (id : String) (config : ConnectionConfig)
    (panicsOn : Option String) :
    (b.act (.create id config panicsOn)).2 =
      match b.create id config panicsOn with
      | .ok b' => b'
      | .error _ => b := by
  cases hs : b.queues.stopped with
  | true => simp [act, create, hs]
  | false => cases hc : Connection.create id config panicsOn <;> simp [act, create, hs, hc]

/-- A call reaches the connection of the name, as long as the handle is held. -/
theorem act_call (b : Bridge) (id : String) (call : Call) :
    (b.act (.call id call)).2 =
      match b.find? id with
      | some c =>
        if c.held then b.put id (c.perform b.queues call).2.1 (c.perform b.queues call).2.2 else b
      | none => b := by
  cases hc : b.find? id with
  | none => simp [act, hc]
  | some c => cases hh : c.held <;> simp [act, hc, hh]

theorem act_call_answer {b : Bridge} {id : String} {c : Connection} (hc : b.find? id = some c)
    (hheld : c.held = true) (call : Call) :
    (b.act (.call id call)).1 = (c.perform b.queues call).1 := by
  simp [act, hc, hheld]

/-- A call that is told `ok` has reached its connection. -/
theorem exists_of_done {b : Bridge} {id : String} {call : Call}
    (h : (b.act (.call id call)).1 = .done) :
    ∃ c, b.find? id = some c ∧ c.held = true ∧ (c.perform b.queues call).1 = .done := by
  cases hc : b.find? id with
  | none => simp [act, hc] at h
  | some c =>
    cases hheld : c.held with
    | false => simp [act, hc, hheld] at h
    | true => exact ⟨c, rfl, hheld, act_call_answer hc hheld call ▸ h⟩

theorem act_far (b : Bridge) (id : String) (call : FarCall) :
    (b.act (.far id call)).2 =
      match b.find? id with
      | some c => if c.wire.opened then b.put id (c.farCall call).2 b.queues else b
      | none => b := by
  cases hc : b.find? id with
  | none => simp [act, hc]
  | some c => cases ho : c.wire.opened <;> simp [act, hc, ho]

/-! ### One round of the loop -/

/-- A connection whose request to connect has been taken up. -/
def dialled (b : Bridge) (c : Connection) : Connection :=
  { c with
    state := .connecting, audio := c.audio.beginCycle, overrunNotice := false
    phase := .dialling b.now (b.network.delay.map Span.nanos)
    wire := { c.wire with faults := b.network.faults } }

theorem takeConnect_of_idle {b : Bridge} {c : Connection} (ha : c.isAlive = true)
    (hs : c.state = .idle) : b.takeConnect c = b.dialled c := by
  have hmove : c.moved .idle .connecting = .ok { c with state := .connecting } := by
    simp [Connection.moved, ConnectionState.transition, ConnectionState.canBecome, hs]
  rw [takeConnect, if_pos ha, hmove]
  rfl

theorem takeConnect_of_not {b : Bridge} {c : Connection} (h : ¬(c.isAlive = true ∧ c.state = .idle)) :
    b.takeConnect c = c := by
  unfold takeConnect Connection.moved
  by_cases ha : c.isAlive = true
  · have hs : c.state ≠ .idle := fun hs => h ⟨ha, hs⟩
    simp [ha, ConnectionState.transition, hs]
  · simp [ha]

theorem takeDisconnect_eq (c : Connection) :
    takeDisconnect c =
      { c with writable := c.writable || (c.isAlive && c.state == .disconnecting) } := by
  unfold takeDisconnect
  split
  · rename_i h
    rw [h, Bool.or_true]
  · rename_i h
    rw [Bool.not_eq_true] at h
    rw [h, Bool.or_false]

theorem takeWrite_eq (c : Connection) :
    takeWrite c = { c with
      writeQueued := c.writeQueued && !c.isAlive
      writable := c.writable || (c.isAlive && c.isConnected) } := by
  unfold takeWrite
  cases ha : c.isAlive <;> simp

/-- What the requests that wait for a connection make of it. -/
def takenUp (b : Bridge) (c : Connection) : Connection :=
  let c := if c.id ∈ b.queues.connects then b.takeConnect c else c
  let c := if c.id ∈ b.queues.disconnects then takeDisconnect c else c
  if c.id ∈ b.queues.writes then takeWrite c else c

/-- A round of the loop may start a driver; but for that it only moves requests and permits. -/
theorem takenUp_cases (b : Bridge) (c : Connection) :
    ∃ d writable writeQueued, b.takenUp c = { d with writable, writeQueued } ∧
      (writeQueued = true → c.writeQueued = true) ∧
      (d = c ∨ c.isAlive = true ∧ c.state = .idle ∧ d = b.dialled c) := by
  have hconnect : ∃ d, (if c.id ∈ b.queues.connects then b.takeConnect c else c) = d ∧
      d.writeQueued = c.writeQueued ∧
      (d = c ∨ c.isAlive = true ∧ c.state = .idle ∧ d = b.dialled c) := by
    split
    · by_cases hidle : c.isAlive = true ∧ c.state = .idle
      · rw [takeConnect_of_idle hidle.1 hidle.2]
        exact ⟨_, rfl, rfl, .inr ⟨hidle.1, hidle.2, rfl⟩⟩
      · rw [takeConnect_of_not hidle]
        exact ⟨c, rfl, rfl, .inl rfl⟩
    · exact ⟨c, rfl, rfl, .inl rfl⟩
  obtain ⟨d, hd, hqueued, hcases⟩ := hconnect
  have hdisconnect : ∃ writable,
      (if d.id ∈ b.queues.disconnects then takeDisconnect d else d) = { d with writable } := by
    split
    · exact ⟨_, takeDisconnect_eq d⟩
    · exact ⟨d.writable, rfl⟩
  obtain ⟨writable, hwritable⟩ := hdisconnect
  simp only [takenUp, hd, hwritable]
  split
  · refine ⟨d, _, _, takeWrite_eq _, fun hq => ?_, hcases⟩
    rw [← hqueued]
    exact (Bool.and_eq_true_iff.mp hq).1
  · exact ⟨d, writable, d.writeQueued, rfl, fun hq => hqueued ▸ hq, hcases⟩

/-- A round of the loop goes over the roster three times. -/
theorem loopRound_of_wake {b : Bridge} (h : b.queues.wake = true) :
    b.loopRound = { b with
      queues := { b.queues with connects := [], disconnects := [], writes := [], wake := false }
      roster := modifyEach b.queues.writes takeWrite
        (modifyEach b.queues.disconnects takeDisconnect
          (modifyEach b.queues.connects b.takeConnect b.roster)) } := by
  have hconnects : ∀ (names : List String) (b : Bridge),
      names.foldl (fun b id => b.modify id b.takeConnect) b =
        { b with roster := modifyEach names b.takeConnect b.roster } := by
    intro names
    induction names with
    | nil => intro b; rfl
    | cons name names ih => intro b; exact ih _
  have hothers : ∀ (f : Connection → Connection) (names : List String) (b : Bridge),
      names.foldl (fun b id => b.modify id f) b =
        { b with roster := modifyEach names f b.roster } := by
    intro f names
    induction names with
    | nil => intro b; rfl
    | cons name names ih => intro b; exact ih _
  unfold loopRound WorkQueues.wait WorkQueues.drain
  rw [h]
  dsimp only
  rw [hconnects, hothers, hothers]
  rfl

theorem loopRound_of_not_wake {b : Bridge} (h : b.queues.wake = false) : b.loopRound = b := by
  unfold loopRound WorkQueues.wait
  rw [h]

/-! ### Shutdown -/

theorem shutdown_of_stopped {b : Bridge} (h : b.queues.stopped = true) : b.shutdown = b := by
  rw [shutdown, if_pos h]

/-- The shutdown lets go of those who wait for a connection that will never be taken up, and of all
drivers. -/
theorem shutdown_of_not_stopped {b : Bridge} (h : b.queues.stopped = false) :
    b.shutdown = { b with
      queues := b.queues.stop.2
      roster := (modifyEach b.queues.connects
        (fun c => if c.isAlive then c.abandonWaits else c) b.roster).map
          fun c => if c.isDriven then c.driverGone else c } := by
  have hfold : ∀ (f : Connection → Connection) (names : List String) (b : Bridge),
      names.foldl (fun b id => b.modify id f) b =
        { b with roster := modifyEach names f b.roster } := by
    intro f names
    induction names with
    | nil => intro b; rfl
    | cons name names ih => intro b; exact ih _
  unfold shutdown
  rw [if_neg (by simp [h])]
  dsimp only
  rw [hfold]
  rfl

/-! ### What holds of every connection -/

/-- `P` holds of a new connection, and nothing that happens to a connection breaks it; `P true` is
what is left of `P` once the service is stopped. -/
structure KeptByMoves (P : Bool → Connection → Prop) : Prop where
  create : ∀ {id config panicsOn c}, Connection.create id config panicsOn = .ok c → P false c
  call : ∀ {c q} (call : Call), P q.stopped c → P q.stopped (c.perform q call).2.1
  far : ∀ {stopped c} (call : FarCall), P stopped c → P stopped (c.farCall call).2
  takeConnect : ∀ {c} (b : Bridge), P false c → P false (b.takeConnect c)
  takeDisconnect : ∀ {c}, P false c → P false (takeDisconnect c)
  takeWrite : ∀ {c}, P false c → P false (takeWrite c)
  seeTo : ∀ {ctx c c' e}, c.seeTo? ctx e = some c' → P false c → P false c'
  abandon : ∀ {c}, P false c → P false c.abandonWaits
  shutdown : ∀ {c}, P false c → P true (if c.isDriven then c.driverGone else c)

namespace KeptByMoves

variable {P : Bool → Connection → Prop}

theorem put (b : Bridge) {id : String} {c : Connection} {q : Requests}
    (hq : q.stopped = b.queues.stopped) (hb : ∀ d ∈ b.roster, P b.queues.stopped d)
    (hc : P q.stopped c) :
    ∀ d ∈ (b.put id c q).roster, P (b.put id c q).queues.stopped d := by
  change ∀ d ∈ modifyIn id (fun _ => c) b.roster, P q.stopped d
  rw [← hq] at hb
  exact forall_modifyIn hb fun _ _ _ => hc

theorem shutdown_kept (h : KeptByMoves P) {b : Bridge}
    (hb : ∀ c ∈ b.roster, P b.queues.stopped c) :
    ∀ c ∈ b.shutdown.roster, P b.shutdown.queues.stopped c := by
  cases hs : b.queues.stopped with
  | true => rw [shutdown_of_stopped hs]; exact hb
  | false =>
    rw [hs] at hb
    have habandoned := forall_modifyEach (P := P false)
      (f := fun c => if c.isAlive then c.abandonWaits else c)
      (fun c hc => by split; exacts [h.abandon hc, hc]) b.queues.connects hb
    rw [shutdown_of_not_stopped hs]
    intro c' hc'
    obtain ⟨c, hc, rfl⟩ := List.mem_map.mp hc'
    exact h.shutdown (habandoned c hc)

theorem create_kept (h : KeptByMoves P) {b b' : Bridge} {id : String} {config : ConnectionConfig}
    {panicsOn : Option String} (hb : ∀ c ∈ b.roster, P b.queues.stopped c)
    (hcreate : b.create id config panicsOn = .ok b') :
    ∀ c ∈ b'.roster, P b'.queues.stopped c := by
  unfold Bridge.create at hcreate
  cases hs : b.queues.stopped with
  | true => simp [hs] at hcreate
  | false =>
    cases hc : Connection.create id config panicsOn with
    | error e => simp [hs, hc] at hcreate
    | ok c =>
      simp only [hs, hc, Bool.false_eq_true, if_false, Except.ok.injEq] at hcreate
      subst hcreate
      intro d hd
      rcases List.mem_append.mp hd with hd | hd
      · exact hb d hd
      · rw [List.mem_singleton.mp hd]
        exact hs ▸ h.create hc

theorem act (h : KeptByMoves P) {b : Bridge} (hb : ∀ c ∈ b.roster, P b.queues.stopped c)
    (action : Action) : ∀ c ∈ (b.act action).2.roster, P (b.act action).2.queues.stopped c := by
  cases action with
  | create id config panicsOn =>
    rw [act_create]
    cases hcreate : b.create id config panicsOn with
    | error e => exact hb
    | ok b' => exact h.create_kept hb hcreate
  | call id call =>
    rw [act_call]
    cases hfind : b.find? id with
    | none => exact hb
    | some c =>
      have hc : P b.queues.stopped c := hb c (List.mem_of_find?_eq_some hfind)
      have hq := (Connection.CallFrame.perform c b.queues call).stopped
      cases hh : c.held with
      | true => simpa [hh] using put b hq hb (hq ▸ h.call call hc)
      | false => simpa [hh] using hb
  | far id call =>
    rw [act_far]
    cases hfind : b.find? id with
    | none => exact hb
    | some c =>
      have hc : P b.queues.stopped c := hb c (List.mem_of_find?_eq_some hfind)
      cases ho : c.wire.opened with
      | true => simpa [ho] using put b rfl hb (h.far call hc)
      | false => simpa [ho] using hb
  | shutdown => exact h.shutdown_kept hb
  | refuse => exact hb
  | delay => exact hb
  | autoPong => exact hb
  | echoClose => exact hb
  | faults => exact hb
  | openedCount => exact hb
  | settings => exact hb

theorem loopRound (h : KeptByMoves P) {b : Bridge} (hb : ∀ c ∈ b.roster, P false c) :
    ∀ c ∈ b.loopRound.roster, P false c := by
  cases hw : b.queues.wake with
  | false => rw [loopRound_of_not_wake hw]; exact hb
  | true =>
    rw [loopRound_of_wake hw]
    have hconnects := forall_modifyEach (P := P false) (fun _ => h.takeConnect b)
      b.queues.connects hb
    have hdisconnects := forall_modifyEach (P := P false) (fun _ => h.takeDisconnect)
      b.queues.disconnects hconnects
    exact forall_modifyEach (P := P false) (fun _ => h.takeWrite) b.queues.writes hdisconnects

theorem seeToOne (h : KeptByMoves P) {b : Bridge} (hb : ∀ c ∈ b.roster, P false c) (n : Nat)
    (e : Errand) : ∀ c ∈ (b.seeToOne n e).roster, P false c := by
  intro c' hc'
  obtain ⟨i, hi, rfl⟩ := List.mem_iff_getElem.mp hc'
  have hlt : i < b.roster.length := by simpa [Bridge.seeToOne] using hi
  have hget : P false b.roster[i] := hb _ (List.getElem_mem hlt)
  simp only [Bridge.seeToOne, List.getElem_modify]
  split
  · cases hsee : b.roster[i].seeTo? b.context e with
    | none => exact hget
    | some c' => exact h.seeTo hsee hget
  · exact hget

/-- A move keeps what nothing breaks. -/
theorem move (h : KeptByMoves P) {b : Bridge} (hb : ∀ c ∈ b.roster, P b.queues.stopped c)
    (m : Move) : ∀ c ∈ (b.move m).roster, P (b.move m).queues.stopped c := by
  cases m with
  | act action => exact h.act hb action
  | loop =>
    unfold Bridge.move
    cases hs : b.queues.stopped with
    | true => simpa [hs] using hb
    | false =>
      rw [hs] at hb
      have hstopped : b.loopRound.queues.stopped = false := by
        cases hw : b.queues.wake with
        | false => rw [loopRound_of_not_wake hw]; exact hs
        | true => rw [loopRound_of_wake hw]; exact hs
      simpa [hstopped] using h.loopRound hb
  | errand n e =>
    unfold Bridge.move
    cases hs : b.queues.stopped with
    | true => simpa [hs] using hb
    | false =>
      rw [hs] at hb
      have hstopped : (b.seeToOne n e).queues.stopped = false := hs
      simpa [hstopped] using h.seeToOne hb n e
  | wait nanos => exact hb

/-- Every play of a bridge keeps what nothing breaks. -/
theorem playFrom (h : KeptByMoves P) (moves : List Move) {b : Bridge}
    (hb : ∀ c ∈ b.roster, P b.queues.stopped c) :
    ∀ c ∈ (b.play moves).roster, P (b.play moves).queues.stopped c := by
  induction moves generalizing b with
  | nil => exact hb
  | cons m moves ih => exact ih (h.move hb m)

/-- What nothing breaks holds of every connection after every play. -/
theorem play (h : KeptByMoves P) (config : ServiceConfig) (moves : List Move) :
    ∀ c ∈ (Bridge.play { config } moves).roster,
      P (Bridge.play { config } moves).queues.stopped c :=
  h.playFrom moves fun _ hc => by cases hc

end KeptByMoves

end Bridge

end VoiceBridge
