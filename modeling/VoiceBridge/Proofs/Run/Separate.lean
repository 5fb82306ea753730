import VoiceBridge.Proofs.Connection.SameFor
import VoiceBridge.Proofs.Run.AtRest
import VoiceBridge.Proofs.Run.WakeUp

/-!
# Connections do not interfere

All connections share the work queues, the wake-up of the loop and the settings of the network. Still,
what happens to one of them is the same if everything that is addressed to others is left out of the
scenario, or out of a play in whatever order (`run_without_others`).

`Alike id b b'` relates the bridge with the others to the one without: the connection of the name is the
same, and so are its requests, the settings and the time. An action that concerns the name keeps the two
alike, one addressed to another keeps the first like itself, and so does whatever the loop and the drivers
make of them. A step that is left out altogether also leaves out a settling. It would have come to a
connection at rest.
-/

namespace VoiceBridge

/-- The name to which an action is addressed. Settings and the shutdown concern everyone. -/
def Action.name? : Action → Option String
  | .create name _ _ | .call name _ | .far name _ => some name
  | .refuse _ | .delay _ | .autoPong _ | .echoClose _ | .faults _ | .openedCount | .settings
  | .shutdown => none

/-- An action is not addressed to another name. -/
def Action.concerns (id : String) (action : Action) : Bool := action.name?.all (· == id)

/-- A step without the actions that are addressed to others. -/
def Step.only (id : String) : Step → Step
  | .acts actions => .acts (actions.filter (·.concerns id))
  | .advance jumps => .advance jumps

/-- A step without the actions that are addressed to others, if anything is left of it. -/
def Step.only? (id : String) (step : Step) : Option Step :=
  match step.only id with
  | .acts [] => none
  | kept => some kept

/-- The answers to what a step addresses to a name. -/
def Step.replies (id : String) : Step → List Answer → List Answer
  | .acts actions, answers =>
    ((actions.zip answers).filter fun p => p.1.name? == some id).map (·.2)
  | .advance _, _ => []

/-- The answers to what a scenario addresses to a name. -/
def replies (id : String) (steps : List Step) (answers : List (List Answer)) : List Answer :=
  (steps.zip answers).flatMap fun p => p.1.replies id p.2

theorem Step.replies_cons (id : String) (action : Action) (rest : List Action) (answer : Answer)
    (answers : List Answer) :
    (Step.acts (action :: rest)).replies id (answer :: answers) =
      (if action.name? = some id then [answer] else []) ++ (Step.acts rest).replies id answers := by
  by_cases h : action.name? = some id <;> simp [Step.replies, h]

theorem replies_cons (id : String) (step : Step) (rest : List Step) (answers : List Answer)
    (later : List (List Answer)) :
    VoiceBridge.replies id (step :: rest) (answers :: later) =
      step.replies id answers ++ VoiceBridge.replies id rest later := rfl

namespace Bridge

variable {id : String} {b b' b'' : Bridge}

/-- To the connection of the name two bridges are the same. -/
structure Alike (id : String) (b b' : Bridge) : Prop where
  config : b'.config = b.config
  network : b'.network = b.network
  now : b'.now = b.now
  found : b'.find? id = b.find? id
  queues : SameFor id b.queues b'.queues

theorem Alike.refl (id : String) (b : Bridge) : Alike id b b := ⟨rfl, rfl, rfl, rfl, .refl id _⟩

theorem Alike.trans (h : Alike id b b') (h' : Alike id b' b'') : Alike id b b'' :=
  ⟨h'.config.trans h.config, h'.network.trans h.network, h'.now.trans h.now, h'.found.trans h.found,
    h.queues.trans h'.queues⟩

theorem Alike.symm (h : Alike id b b') : Alike id b' b :=
  ⟨h.config.symm, h.network.symm, h.now.symm, h.found.symm, h.queues.symm⟩

/-! ### Actions -/

/-- A move keeps two bridges alike if it does so for the connection of the name and its requests. -/
theorem Alike.move (h : Alike id b b') {m : Move} (hfound : (b'.move m).find? id = (b.move m).find? id)
    (hqueues : SameFor id (b.move m).queues (b'.move m).queues) : Alike id (b.move m) (b'.move m) := by
  obtain ⟨hconfig, hnow, hnetwork⟩ := settings_move b m
  obtain ⟨hconfig', hnow', hnetwork'⟩ := settings_move b' m
  refine ⟨?_, ?_, ?_, hfound, hqueues⟩
  · rw [hconfig', hconfig, h.config]
  · rw [hnetwork', hnetwork, h.network]
  · rw [hnow', hnow, h.now]

/-- What is addressed to another is nothing to the connection of the name. -/
theorem alike_of_not_concerns {action : Action} (hother : action.concerns id = false) (b : Bridge) :
    Alike id b (b.move (.act action)) := by
  obtain ⟨hconfig, hnow, hnetwork⟩ := settings_move b (.act action)
  have hmove : ∀ {name : String}, action.name? = some name →
      (b.move (.act action)).network = b.network → (b.move (.act action)).find? id = b.find? id →
      SameFor id b.queues (b.move (.act action)).queues → Alike id b (b.move (.act action)) :=
    fun _ hnet hfound hqueues => ⟨hconfig, hnet, hnow, hfound, hqueues⟩
  cases action with
  | create name config panicsOn =>
    have hne : name ≠ id := by simpa [Action.concerns, Action.name?] using hother
    have hqueues : (b.move (.act (.create name config panicsOn))).queues = b.queues :=
      queues_move (by simp) (by simp) (by simp)
    refine hmove rfl hnetwork ?_ (hqueues ▸ .refl id _)
    rw [move_act, act_create]
    cases hcreate : b.create name config panicsOn with
    | error e => rfl
    | ok b₁ =>
      obtain ⟨d, hd, _, hfound⟩ := find?_create id hcreate
      have hid : d.id ≠ id := by rwa [Connection.id_of_create hd]
      dsimp only
      rw [hfound, if_neg hid, Option.or_none]
  | call name call =>
    have hne : name ≠ id := by simpa [Action.concerns, Action.name?] using hother
    refine hmove rfl hnetwork ?_ (.of_asked (asked_move_call b name call) (Ne.symm hne))
    rw [find?_call]
    cases b.find? id <;> simp [hne]
  | far name call =>
    have hne : name ≠ id := by simpa [Action.concerns, Action.name?] using hother
    have hqueues : (b.move (.act (.far name call))).queues = b.queues :=
      queues_move (by simp) (by simp) (by simp)
    refine hmove rfl hnetwork ?_ (hqueues ▸ .refl id _)
    rw [find?_far]
    cases b.find? id <;> simp [hne]
  | _ => cases hother

theorem Alike.create (h : Alike id b b') (config : ConnectionConfig) (panicsOn : Option String) :
    Alike id (b.move (.act (.create id config panicsOn))) (b'.move (.act (.create id config panicsOn))) ∧
      (b'.act (.create id config panicsOn)).1 = (b.act (.create id config panicsOn)).1 := by
  have hqueues : ∀ b : Bridge, (b.move (.act (.create id config panicsOn))).queues = b.queues :=
    fun b => queues_move (by simp) (by simp) (by simp)
  have hstopped := h.queues.stopped
  have hcreated : (b'.move (.act (.create id config panicsOn))).find? id =
        (b.move (.act (.create id config panicsOn))).find? id ∧
      (b'.act (.create id config panicsOn)).1 = (b.act (.create id config panicsOn)).1 := by
    cases hs : b.queues.stopped with
    | true =>
      rw [hs] at hstopped
      simp [Bridge.move, Bridge.act, hs, hstopped, h.found]
    | false =>
      rw [hs] at hstopped
      have hfound : b'.roster.find? (·.id == id) = b.roster.find? (·.id == id) := h.found
      cases hd : Connection.create id config panicsOn with
      | error e => simp [Bridge.move, Bridge.act, Bridge.create, hs, hstopped, hd, h.found]
      | ok d =>
        simp [Bridge.move, Bridge.act, Bridge.create, hs, hstopped, hd, find?, hfound]
  refine ⟨h.move hcreated.1 ?_, hcreated.2⟩
  rw [hqueues, hqueues]
  exact h.queues

theorem Alike.call (h : Alike id b b') (call : Call) :
    Alike id (b.move (.act (.call id call))) (b'.move (.act (.call id call))) ∧
      (b'.act (.call id call)).1 = (b.act (.call id call)).1 := by
  cases hc : b.find? id with
  | none =>
    have hc' := h.found.trans hc
    have hsame : ∀ {b : Bridge}, b.find? id = none → b.act (.call id call) = (.noConnection, b) :=
      fun hc => by simp [Bridge.act, hc]
    refine ⟨?_, by rw [hsame hc, hsame hc']⟩
    rw [move_act, move_act, hsame hc, hsame hc']
    exact h
  | some c =>
    have hc' := h.found.trans hc
    have hid := id_of_find? hc
    subst hid
    cases hheld : c.held with
    | false =>
      have hsame : ∀ {b : Bridge}, b.find? c.id = some c → b.act (.call c.id call) = (.dropped, b) :=
        fun hc => by simp [Bridge.act, hc, hheld]
      refine ⟨?_, by rw [hsame hc, hsame hc']⟩
      rw [move_act, move_act, hsame hc, hsame hc']
      exact h
    | true =>
      obtain ⟨hanswer, hconnection, hqueues⟩ := h.queues.perform c call
      refine ⟨h.move ?_ ?_, ?_⟩
      · rw [find?_call_held hc' hheld, find?_call_held hc hheld, hconnection]
      · rw [queues_move_held hc' hheld, queues_move_held hc hheld]
        exact hqueues
      · rw [act_call_answer hc' hheld, act_call_answer hc hheld, hanswer]

theorem Alike.far (h : Alike id b b') (call : FarCall) :
    Alike id (b.move (.act (.far id call))) (b'.move (.act (.far id call))) ∧
      (b'.act (.far id call)).1 = (b.act (.far id call)).1 := by
  have hqueues : ∀ b : Bridge, (b.move (.act (.far id call))).queues = b.queues :=
    fun b => queues_move (by simp) (by simp) (by simp)
  refine ⟨h.move ?_ ?_, ?_⟩
  · rw [find?_far, find?_far, h.found]
  · rw [hqueues, hqueues]
    exact h.queues
  · cases hc : b.find? id with
    | none => simp [Bridge.act, hc, h.found.trans hc]
    | some c => cases hopen : c.wire.opened <;> simp [Bridge.act, hc, h.found.trans hc, hopen]

theorem Alike.shutdown (h : Alike id b b') :
    Alike id (b.move (.act .shutdown)) (b'.move (.act .shutdown)) := by
  cases hs : b.queues.stopped with
  | true =>
    have hs' := h.queues.stopped.trans hs
    have hmove : ∀ {b : Bridge}, b.queues.stopped = true → b.move (.act .shutdown) = b :=
      fun hs => shutdown_of_stopped hs
    rw [hmove hs, hmove hs']
    exact h
  | false =>
    have hs' := h.queues.stopped.trans hs
    refine h.move ?_ ?_
    · change b'.shutdown.find? id = b.shutdown.find? id
      rw [find?_shutdown_eq hs', find?_shutdown_eq hs, h.found]
      simp only [h.queues.connects]
    · change SameFor id b.shutdown.queues b'.shutdown.queues
      rw [shutdown_of_not_stopped hs, shutdown_of_not_stopped hs']
      exact ⟨rfl, Iff.rfl, Iff.rfl, Iff.rfl⟩

/-- What concerns the name is the same in both bridges. -/
theorem Alike.act (h : Alike id b b') {action : Action} (hconcerns : action.concerns id = true) :
    Alike id (b.move (.act action)) (b'.move (.act action)) ∧
      (action.name? = some id → (b'.act action).1 = (b.act action).1) := by
  have hsettings : (∀ b : Bridge, (b.move (.act action)).roster = b.roster) →
      (∀ b : Bridge, (b.move (.act action)).queues = b.queues) →
      Alike id (b.move (.act action)) (b'.move (.act action)) := by
    intro hroster hqueues
    refine h.move ?_ ?_
    · unfold find?
      rw [hroster, hroster]
      exact h.found
    · rw [hqueues, hqueues]
      exact h.queues
  cases action with
  | create name config panicsOn =>
    have hname : name = id := by simpa [Action.concerns, Action.name?] using hconcerns
    subst hname
    exact ⟨(h.create config panicsOn).1, fun _ => (h.create config panicsOn).2⟩
  | call name call =>
    have hname : name = id := by simpa [Action.concerns, Action.name?] using hconcerns
    subst hname
    exact ⟨(h.call call).1, fun _ => (h.call call).2⟩
  | far name call =>
    have hname : name = id := by simpa [Action.concerns, Action.name?] using hconcerns
    subst hname
    exact ⟨(h.far call).1, fun _ => (h.far call).2⟩
  | shutdown => exact ⟨h.shutdown, fun hname => by cases hname⟩
  | _ => exact ⟨hsettings (fun _ => rfl) fun _ => rfl, fun hname => by cases hname⟩

/-! ### To settle -/

theorem takenUp_of_not_mem {c : Connection} (hconnects : c.id ∉ b.queues.connects)
    (hdisconnects : c.id ∉ b.queues.disconnects) (hwrites : c.id ∉ b.queues.writes) :
    b.takenUp c = c := by
  unfold takenUp
  dsimp only
  rw [if_neg hconnects, if_neg hdisconnects, if_neg hwrites]

/-- Where every request has woken the loop, it does not matter whether it has been woken. -/
theorem find?_loopRound_of_heard (h : b.queues.Heard) (id : String) :
    b.loopRound.find? id = (b.find? id).map b.takenUp := by
  cases hw : b.queues.wake with
  | true => exact find?_loopRound hw id
  | false =>
    obtain ⟨hconnects, hdisconnects, hwrites⟩ := queues_eq_nil_of_heard h hw
    have hsame : ∀ c, b.takenUp c = c := fun c =>
      takenUp_of_not_mem (by simp [hconnects]) (by simp [hdisconnects]) (by simp [hwrites])
    rw [loopRound_of_not_wake hw, funext hsame]
    simp

theorem Alike.takenUp (h : Alike id b b') {c : Connection} (hid : c.id = id) :
    b'.takenUp c = b.takenUp c := by
  have hconnect : b'.takeConnect c = b.takeConnect c := by
    by_cases hc : c.isAlive = true ∧ c.state = .idle
    · rw [takeConnect_of_idle hc.1 hc.2, takeConnect_of_idle hc.1 hc.2, dialled, dialled, h.network,
        h.now]
    · rw [takeConnect_of_not hc, takeConnect_of_not hc]
  subst hid
  have hfirst : (if c.id ∈ b.queues.connects then b.takeConnect c else c).id = c.id := by
    split
    · exact id_takeConnect b c
    · rfl
  unfold Bridge.takenUp
  dsimp only
  rw [hconnect]
  simp only [h.queues.connects]
  generalize (if c.id ∈ b.queues.connects then b.takeConnect c else c) = d at hfirst ⊢
  have hsecond : (if c.id ∈ b.queues.disconnects then takeDisconnect d else d).id = c.id := by
    split
    · exact (id_takeDisconnect d).trans hfirst
    · exact hfirst
  rw [hfirst]
  simp only [h.queues.disconnects]
  rw [hsecond]
  simp only [h.queues.writes]

theorem Alike.loopRound (h : Alike id b b') (hheard : b.queues.Heard) (hheard' : b'.queues.Heard) :
    Alike id b.loopRound b'.loopRound := by
  have hsettings : ∀ b : Bridge, b.loopRound.config = b.config ∧ b.loopRound.network = b.network ∧
      b.loopRound.now = b.now := by
    intro b
    cases hw : b.queues.wake with
    | true => rw [loopRound_of_wake hw]; exact ⟨rfl, rfl, rfl⟩
    | false => rw [loopRound_of_not_wake hw]; exact ⟨rfl, rfl, rfl⟩
  have hempty : ∀ {b : Bridge}, b.queues.Heard → id ∉ b.loopRound.queues.connects ∧
      id ∉ b.loopRound.queues.disconnects ∧ id ∉ b.loopRound.queues.writes := by
    intro b hheard
    cases hw : b.queues.wake with
    | true => rw [loopRound_of_wake hw]; simp
    | false =>
      rw [loopRound_of_not_wake hw]
      obtain ⟨hconnects, hdisconnects, hwrites⟩ := queues_eq_nil_of_heard hheard hw
      simp [hconnects, hdisconnects, hwrites]
  obtain ⟨hconfig, hnetwork, hnow⟩ := hsettings b
  obtain ⟨hconfig', hnetwork', hnow'⟩ := hsettings b'
  obtain ⟨hconnects, hdisconnects, hwrites⟩ := hempty hheard
  obtain ⟨hconnects', hdisconnects', hwrites'⟩ := hempty hheard'
  refine ⟨?_, ?_, ?_, ?_, ?_, ?_, ?_, ?_⟩
  · rw [hconfig', hconfig, h.config]
  · rw [hnetwork', hnetwork, h.network]
  · rw [hnow', hnow, h.now]
  · rw [find?_loopRound_of_heard hheard', find?_loopRound_of_heard hheard, h.found]
    cases hc : b.find? id with
    | none => rfl
    | some c => exact congrArg some (h.takenUp (id_of_find? hc))
  · rw [stopped_loopRound, stopped_loopRound, h.queues.stopped]
  · exact iff_of_false hconnects' hconnects
  · exact iff_of_false hdisconnects' hdisconnects
  · exact iff_of_false hwrites' hwrites

theorem id_drive {ctx : LoopContext} {c : Connection} (h : c.Standing false) :
    (c.drive ctx).id = c.id := by
  have hfor : ∀ (n : Nat) {c : Connection}, c.Standing false →
      (Connection.driveFor ctx n c).id = c.id := by
    intro n
    induction n with
    | zero => exact fun _ => rfl
    | succ n ih =>
      intro c h
      rw [Connection.driveFor_succ]
      cases hstep : c.step? ctx with
      | none => exact ih h
      | some c' =>
        have hprogress := Connection.progress_of_step h hstep
        exact (ih (h.progress hprogress)).trans hprogress.id
  exact hfor _ h

theorem find?_driveAll (hb : ∀ c ∈ b.roster, c.Standing false) (id : String) :
    b.driveAll.find? id = (b.find? id).map (·.drive b.context) := by
  have hroster : ∀ l : List Connection, (∀ c ∈ l, c.Standing false) →
      (l.map (·.drive b.context)).find? (·.id == id) =
        (l.find? (·.id == id)).map (·.drive b.context) := by
    intro l
    induction l with
    | nil => exact fun _ => rfl
    | cons c rest ih =>
      intro hl
      have hid : (c.drive b.context).id = c.id := id_drive (hl c List.mem_cons_self)
      rw [List.map_cons, List.find?_cons, List.find?_cons, hid,
        ih fun d hd => hl d (List.mem_cons_of_mem _ hd)]
      split <;> rfl
  exact hroster b.roster hb

/-- What the loop and the drivers make of two bridges keeps them alike. -/
theorem Alike.settle {config : ServiceConfig} {moves moves' : List Move}
    (h : Alike id (play { config } moves) (play { config } moves')) :
    Alike id (play { config } moves).settle (play { config } moves').settle := by
  generalize hb : play { config } moves = b at h
  generalize hb' : play { config } moves' = b' at h
  have hkept := Connection.standing_kept.play config moves
  have hkept' := Connection.standing_kept.play config moves'
  rw [hb] at hkept
  rw [hb'] at hkept'
  cases hs : b.queues.stopped with
  | true =>
    have hs' := h.queues.stopped.trans hs
    rw [Bridge.settle, Bridge.settle, if_pos hs, if_pos hs']
    exact h
  | false =>
    have hs' := h.queues.stopped.trans hs
    have hloop := h.loopRound (hb ▸ vigilant_play config moves (hb ▸ hs)).heard
      (hb' ▸ vigilant_play config moves' (hb' ▸ hs')).heard
    rw [hs] at hkept
    rw [hs'] at hkept'
    have hstanding := Connection.standing_kept.loopRound hkept
    have hstanding' := Connection.standing_kept.loopRound hkept'
    have hcontext : b'.loopRound.context = b.loopRound.context := by
      unfold context
      rw [hloop.config, hloop.network, hloop.now]
    rw [Bridge.settle, Bridge.settle, if_neg (by simp [hs]), if_neg (by simp [hs'])]
    refine ⟨hloop.config, hloop.network, hloop.now, ?_, hloop.queues⟩
    rw [find?_driveAll hstanding', find?_driveAll hstanding, hloop.found, hcontext]

/-- A bridge at rest is settled for good. -/
theorem AtRest.settle_eq (h : b.AtRest) : b.settle = b := by
  have hroster : b.roster.map (·.drive b.context) = b.roster := by
    have hsame : ∀ c ∈ b.roster, c.drive b.context = c := fun c hc =>
      Connection.driveFor_of_none (h.still c hc) _
    rw [List.map_congr_left hsame, List.map_id']
  cases hs : b.queues.stopped with
  | true => rw [Bridge.settle, if_pos hs]
  | false =>
    rw [Bridge.settle, if_neg (by simp [hs]), loopRound_of_not_wake h.wake, driveAll, hroster]

theorem Stilled.settle_eq {config : ServiceConfig} (h : b.Stilled config) : b.settle = b := by
  cases hs : b.queues.stopped with
  | true => rw [Bridge.settle, if_pos hs]
  | false => exact (h.atRest hs).settle_eq

/-! ### Scenarios -/

theorem actAll_cons (b : Bridge) (action : Action) (rest : List Action) :
    b.actAll (action :: rest) = ((b.act action).1 :: ((b.act action).2.actAll rest).1,
      ((b.act action).2.actAll rest).2) := rfl

theorem run_cons (b : Bridge) (step : Step) (rest : List Step) :
    b.run (step :: rest) = ((b.step step).1 :: ((b.step step).2.run rest).1,
      ((b.step step).2.run rest).2) := rfl

/-- The actions of a batch that concern the name make the same of its connection by themselves. -/
theorem Alike.actAll (actions : List Action) (h : Alike id b b') :
    Alike id (b.actAll actions).2 (b'.actAll (actions.filter (·.concerns id))).2 ∧
      (Step.acts (actions.filter (·.concerns id))).replies id
          (b'.actAll (actions.filter (·.concerns id))).1 =
        (Step.acts actions).replies id (b.actAll actions).1 := by
  induction actions generalizing b b' with
  | nil => exact ⟨h, rfl⟩
  | cons action rest ih =>
    cases hconcerns : action.concerns id with
    | true =>
      obtain ⟨hact, hanswer⟩ := h.act hconcerns
      obtain ⟨hrest, hreplies⟩ := ih hact
      rw [List.filter_cons_of_pos hconcerns, actAll_cons, actAll_cons]
      refine ⟨hrest, ?_⟩
      rw [Step.replies_cons, Step.replies_cons]
      refine congr (congrArg _ ?_) hreplies
      by_cases hname : action.name? = some id
      · rw [if_pos hname, if_pos hname, hanswer hname]
      · rw [if_neg hname, if_neg hname]
    | false =>
      have hname : action.name? ≠ some id := by
        intro hname
        simp [Action.concerns, hname] at hconcerns
      obtain ⟨hrest, hreplies⟩ := ih ((alike_of_not_concerns hconcerns b).symm.trans h)
      rw [List.filter_cons_of_neg (by simp [hconcerns]), actAll_cons]
      refine ⟨hrest, ?_⟩
      rw [Step.replies_cons, if_neg hname, List.nil_append]
      exact hreplies

/-- What concerns the name of a step makes the same of its connection by itself. -/
theorem Alike.step {config : ServiceConfig} {moves moves' : List Move} (step : Step)
    (h : Alike id (play { config } moves) (play { config } moves')) :
    Alike id ((play { config } moves).step step).2 ((play { config } moves').step (step.only id)).2 ∧
      (step.only id).replies id ((play { config } moves').step (step.only id)).1 =
        step.replies id ((play { config } moves).step step).1 := by
  cases step with
  | acts actions =>
    obtain ⟨hacts, hreplies⟩ := h.actAll actions
    rw [actAll_eq, actAll_eq, ← play_append, ← play_append] at hacts
    refine ⟨?_, hreplies⟩
    change Alike id ((play { config } moves).actAll actions).2.settle
      ((play { config } moves').actAll (actions.filter (·.concerns id))).2.settle
    rw [actAll_eq, actAll_eq, ← play_append, ← play_append]
    exact hacts.settle
  | advance jumps =>
    refine ⟨?_, rfl⟩
    change Alike id (jumps.foldl jump (play { config } moves))
      (jumps.foldl jump (play { config } moves'))
    induction jumps generalizing moves moves' with
    | nil => exact h
    | cons nanos rest ih =>
      have hwait : Alike id (play { config } (moves ++ [.wait nanos]))
          (play { config } (moves' ++ [.wait nanos])) := by
        rw [play_append, play_append]
        exact h.move (m := .wait nanos) h.found h.queues
      have hsettled := hwait.settle
      obtain ⟨later, hreached⟩ := exists_later_settle { config } (moves ++ [.wait nanos])
      obtain ⟨later', hreached'⟩ := exists_later_settle { config } (moves' ++ [.wait nanos])
      rw [hreached, hreached'] at hsettled
      rw [List.foldl_cons, List.foldl_cons, jump_play, jump_play, hreached, hreached']
      exact ih hsettled

theorem Alike.run {config : ServiceConfig} (steps : List Step) {moves moves' : List Move}
    (h : Alike id (play { config } moves) (play { config } moves')) :
    Alike id ((play { config } moves).run steps).2
        ((play { config } moves').run (steps.map (·.only id))).2 ∧
      VoiceBridge.replies id (steps.map (·.only id))
          ((play { config } moves').run (steps.map (·.only id))).1 =
        VoiceBridge.replies id steps ((play { config } moves).run steps).1 := by
  induction steps generalizing moves moves' with
  | nil => exact ⟨h, rfl⟩
  | cons step rest ih =>
    obtain ⟨hstep, hreplies⟩ := h.step step
    obtain ⟨later, _, hreached⟩ := exists_play_step (play { config } moves) step
    obtain ⟨later', _, hreached'⟩ := exists_play_step (play { config } moves') (step.only id)
    rw [hreached, hreached', ← play_append, ← play_append] at hstep
    obtain ⟨hrest, hafter⟩ := ih hstep
    rw [List.map_cons, run_cons, run_cons, replies_cons, replies_cons, hreplies, hreached, hreached',
      ← play_append, ← play_append, hafter]
    exact ⟨hrest, rfl⟩

/-- A step of which nothing is left can be left out, since it comes to a bridge that is settled. -/
theorem Stilled.run_only? {config : ServiceConfig} (id : String) (steps : List Step)
    (h : b.Stilled config) :
    (b.run (steps.filterMap (·.only? id))).2 = (b.run (steps.map (·.only id))).2 ∧
      VoiceBridge.replies id (steps.filterMap (·.only? id)) (b.run (steps.filterMap (·.only? id))).1 =
        VoiceBridge.replies id (steps.map (·.only id)) (b.run (steps.map (·.only id))).1 := by
  induction steps generalizing b with
  | nil => exact ⟨rfl, rfl⟩
  | cons step rest ih =>
    obtain ⟨hrest, hreplies⟩ := ih (h.step (step.only id))
    rw [List.map_cons, run_cons, replies_cons]
    cases honly : step.only? id with
    | some kept =>
      have hkept : kept = step.only id := by
        unfold Step.only? at honly
        split at honly
        · cases honly
        · exact (Option.some.inj honly).symm
      subst hkept
      rw [List.filterMap_cons_some honly, run_cons, replies_cons]
      exact ⟨hrest, by rw [hreplies]⟩
    | none =>
      have hempty : step.only id = .acts [] := by
        unfold Step.only? at honly
        split at honly
        · assumption
        · cases honly
      have hsame : b.step (.acts []) = ([], b) := by
        change ([], b.settle) = _
        rw [h.settle_eq]
      rw [hempty, hsame] at hrest hreplies ⊢
      rw [List.filterMap_cons_none honly]
      exact ⟨hrest, hreplies⟩

/-! ### Plays -/

/-- No connection of another name was ever made. -/
def Sole (id : String) (b : Bridge) : Prop := ∀ name, name ≠ id → b.find? name = none

theorem Sole.findIdx? {c : Connection} (h : b.Sole id) (hc : b.find? id = some c) :
    b.roster.findIdx? (·.id == id) = some 0 := by
  cases hroster : b.roster with
  | nil => simp [find?, hroster] at hc
  | cons d rest =>
    have hd : d.id = id := by
      by_contra hne
      have hnone := h d.id hne
      simp [find?, hroster] at hnone
    simp [List.findIdx?_cons, hd]

theorem Sole.move (h : b.Sole id) (hb : ∀ c ∈ b.roster, c.Standing b.queues.stopped) {m : Move}
    (hm : ∀ name config panicsOn, m = .act (.create name config panicsOn) → name = id) :
    (b.move m).Sole id := by
  intro name hne
  by_contra hsome
  obtain ⟨c, hc⟩ := Option.ne_none_iff_exists'.mp hsome
  obtain ⟨config, panicsOn, rfl, _⟩ := find?_move_of_none hb (h name hne) hc
  exact hne (hm name config panicsOn rfl)

/-- Only the first connection of a name can be found by it. -/
theorem find?_modify_eq {f : Connection → Connection} (id : String) :
    ∀ {l : List Connection}, (∀ c ∈ l, (f c).id = c.id) → ∀ n,
      (l.modify n f).find? (·.id == id) =
        if l.findIdx? (·.id == id) = some n then (l.find? (·.id == id)).map f
        else l.find? (·.id == id)
  | [], _, n => by simp
  | c :: rest, hf, n => by
    have hname := hf c List.mem_cons_self
    have hrest := find?_modify_eq id fun d hd => hf d (List.mem_cons_of_mem _ hd)
    cases n with
    | zero => cases hc : c.id == id <;> simp [List.modify_zero_cons, List.findIdx?_cons, hname, hc]
    | succ n => cases hc : c.id == id <;> simp [List.findIdx?_cons, hc, hrest]

theorem find?_seeToOne_eq (hb : ∀ c ∈ b.roster, c.Standing false) (n : Nat) (e : Errand) :
    (b.seeToOne n e).find? id =
      if b.roster.findIdx? (·.id == id) = some n then
        (b.find? id).map fun c => (c.seeTo? b.context e).getD c
      else b.find? id :=
  find?_modify_eq id (fun c hc => id_seeTo? (hb c hc) e) n

/-- A move as it is made where everything that is addressed to others is left out, if anything is left of it.
The connection of the name is the first there. -/
def ownMove? (id : String) (b : Bridge) : Move → Option Move
  | .act action => if action.concerns id then some (.act action) else none
  | .loop => some .loop
  | .errand n e => if b.roster.findIdx? (·.id == id) = some n then some (.errand 0 e) else none
  | .wait nanos => some (.wait nanos)

/-- A play without what is addressed to others and without what their drivers see to. -/
def alone (id : String) (b : Bridge) : List Move → List Move
  | [] => []
  | m :: moves => (b.ownMove? id m).toList ++ (b.move m).alone id moves

/-- What a move is answered, if it is an action that is addressed to a name. -/
def answeredTo (id : String) (b : Bridge) (m : Move) : List Answer :=
  if m.action?.bind Action.name? = some id then b.answered m else []

/-- A bridge, and the one without the others, each in good order. -/
structure Beside (id : String) (b b' : Bridge) : Prop where
  alike : Alike id b b'
  standing : ∀ c ∈ b.roster, c.Standing b.queues.stopped
  standing' : ∀ c ∈ b'.roster, c.Standing b'.queues.stopped
  vigilant : b.queues.stopped = false → b.Vigilant
  vigilant' : b'.queues.stopped = false → b'.Vigilant
  sole : b'.Sole id

theorem vigilant_move (hb : ∀ c ∈ b.roster, c.Standing b.queues.stopped)
    (h : b.queues.stopped = false → b.Vigilant) (m : Move) :
    (b.move m).queues.stopped = false → (b.move m).Vigilant :=
  fun hrunning => (h (running_of_move hrunning)).move hb hrunning

/-- What is left out keeps the two alike. -/
theorem Beside.left (h : Beside id b b') {m : Move} (halike : Alike id b (b.move m)) :
    Beside id (b.move m) b' where
  alike := halike.symm.trans h.alike
  standing := Connection.standing_kept.move h.standing m
  standing' := h.standing'
  vigilant := vigilant_move h.standing h.vigilant m
  vigilant' := h.vigilant'
  sole := h.sole

/-- What is made in both keeps them alike. -/
theorem Beside.kept (h : Beside id b b') {m m' : Move} (halike : Alike id (b.move m) (b'.move m'))
    (hm' : ∀ name config panicsOn, m' = .act (.create name config panicsOn) → name = id) :
    Beside id (b.move m) (b'.move m') where
  alike := halike
  standing := Connection.standing_kept.move h.standing m
  standing' := Connection.standing_kept.move h.standing' m'
  vigilant := vigilant_move h.standing h.vigilant m
  vigilant' := vigilant_move h.standing' h.vigilant' m'
  sole := h.sole.move h.standing' hm'

theorem Beside.loop (h : Beside id b b') : Alike id (b.move .loop) (b'.move .loop) := by
  have hstopped := h.alike.queues.stopped
  unfold Bridge.move
  rw [hstopped]
  cases hs : b.queues.stopped with
  | true => exact h.alike
  | false => exact h.alike.loopRound (h.vigilant hs).heard (h.vigilant' (hstopped.trans hs)).heard

/-- The driver of the connection sees to the same in both. -/
theorem Beside.errand (h : Beside id b b') {n : Nat} {e : Errand}
    (hn : b.roster.findIdx? (·.id == id) = some n) :
    Alike id (b.move (.errand n e)) (b'.move (.errand 0 e)) := by
  have hstopped := h.alike.queues.stopped
  have hcontext : b'.context = b.context := by
    unfold context
    rw [h.alike.config, h.alike.network, h.alike.now]
  cases hs : b.queues.stopped with
  | true =>
    rw [move_errand_of_stopped hs, move_errand_of_stopped (hstopped.trans hs)]
    exact h.alike
  | false =>
    have hs' := hstopped.trans hs
    rw [move_errand_of_running hs, move_errand_of_running hs']
    refine ⟨h.alike.config, h.alike.network, h.alike.now, ?_, h.alike.queues⟩
    rw [find?_seeToOne_eq (hs' ▸ h.standing'), find?_seeToOne_eq (hs ▸ h.standing), if_pos hn, hcontext,
      h.alike.found]
    cases hc : b.find? id with
    | none => exact ite_self _
    | some c => exact if_pos (h.sole.findIdx? (h.alike.found.trans hc))

/-- The driver of another connection sees to something. -/
theorem alike_of_other (hb : ∀ c ∈ b.roster, c.Standing b.queues.stopped) {n : Nat}
    (hn : b.roster.findIdx? (·.id == id) ≠ some n) (e : Errand) : Alike id b (b.move (.errand n e)) := by
  cases hs : b.queues.stopped with
  | true =>
    rw [move_errand_of_stopped hs]
    exact .refl id b
  | false =>
    rw [move_errand_of_running hs]
    refine ⟨rfl, rfl, rfl, ?_, .refl id _⟩
    rw [find?_seeToOne_eq (hs ▸ hb), if_neg hn]

theorem Beside.of_ownMove?_eq_none (h : Beside id b b') {m : Move} (hm : b.ownMove? id m = none) :
    Beside id (b.move m) b' ∧ b.answeredTo id m = [] := by
  cases m with
  | act action =>
    have hother : action.concerns id = false := by simpa [ownMove?] using hm
    refine ⟨h.left (alike_of_not_concerns hother b), if_neg fun hname => ?_⟩
    have hname : action.name? = some id := hname
    simp [Action.concerns, hname] at hother
  | errand n e => exact ⟨h.left (alike_of_other h.standing (by simpa [ownMove?] using hm) e), rfl⟩
  | loop | wait => cases hm

theorem Beside.of_ownMove?_eq_some (h : Beside id b b') {m m' : Move} (hm : b.ownMove? id m = some m') :
    Beside id (b.move m) (b'.move m') ∧ b'.answeredTo id m' = b.answeredTo id m := by
  cases m with
  | act action =>
    obtain ⟨hconcerns, rfl⟩ : action.concerns id = true ∧ Move.act action = m' := by
      simpa [ownMove?] using hm
    obtain ⟨halike, hanswer⟩ := h.alike.act hconcerns
    refine ⟨h.kept halike fun name config panicsOn hcreate => ?_, ?_⟩
    · cases hcreate
      simpa [Action.concerns, Action.name?] using hconcerns
    · unfold answeredTo
      split
      · rename_i hname
        exact congrArg ([·]) (hanswer hname)
      · rfl
  | loop =>
    cases hm
    exact ⟨h.kept h.loop nofun, rfl⟩
  | errand n e =>
    obtain ⟨hn, rfl⟩ : b.roster.findIdx? (·.id == id) = some n ∧ Move.errand 0 e = m' := by
      simpa [ownMove?] using hm
    exact ⟨h.kept (h.errand hn) nofun, rfl⟩
  | wait nanos =>
    cases hm
    exact ⟨h.kept (h.alike.move h.alike.found h.alike.queues) nofun, rfl⟩

/-- Whatever is left out, the connection of the name fares the same. -/
theorem Beside.alone (moves : List Move) (h : Beside id b b') :
    (b'.play (b.alone id moves)).find? id = (b.play moves).find? id ∧
      b'.record (answeredTo id) (b.alone id moves) = b.record (answeredTo id) moves := by
  induction moves generalizing b b' with
  | nil => exact ⟨h.alike.found, rfl⟩
  | cons m moves ih =>
    cases hm : b.ownMove? id m with
    | none =>
      obtain ⟨hnext, hquiet⟩ := h.of_ownMove?_eq_none hm
      obtain ⟨hfound, hanswers⟩ := ih hnext
      rw [Bridge.alone, hm, record, hquiet]
      exact ⟨hfound, hanswers⟩
    | some m' =>
      obtain ⟨hnext, hanswer⟩ := h.of_ownMove?_eq_some hm
      obtain ⟨hfound, hanswers⟩ := ih hnext
      rw [Bridge.alone, hm, record, ← hanswer, ← hanswers]
      exact ⟨hfound, rfl⟩

theorem beside_new (config : ServiceConfig) (id : String) : Beside id { config } { config } where
  alike := .refl id _
  standing _ hc := (List.not_mem_nil hc).elim
  standing' _ hc := (List.not_mem_nil hc).elim
  vigilant hs := vigilant_play config [] hs
  vigilant' hs := vigilant_play config [] hs
  sole _ _ := rfl

end Bridge

/-- Connections do not interfere. Whatever is addressed to others may be left out of a scenario, be it in
batches of which the rest stays or steps as a whole: the connection of a name, with its state, its events,
its completions, its buffer and the frames on its wire, is the same at the end of every scenario, and what
is addressed to it is answered the same. So it is in every play, in whatever order the loop and the drivers
go on, if all that the others are called and their drivers see to is left out. As every beginning of a
scenario is a scenario, and every beginning of a play is a play, this is so at each point of them. -/
theorem run_without_others (config : ServiceConfig) (id : String) :
    (∀ steps : List Step,
      (let whole := Bridge.run { config } steps
        let alone := Bridge.run { config } (steps.map (·.only id))
        alone.2.find? id = whole.2.find? id ∧
          replies id (steps.map (·.only id)) alone.1 = replies id steps whole.1) ∧
      let whole := Bridge.run { config } steps
      let alone := Bridge.run { config } (steps.filterMap (·.only? id))
      alone.2.find? id = whole.2.find? id ∧
        replies id (steps.filterMap (·.only? id)) alone.1 = replies id steps whole.1) ∧
    ∀ moves : List Move,
      let alone := Bridge.alone id { config } moves
      (Bridge.play { config } alone).find? id = (Bridge.play { config } moves).find? id ∧
        Bridge.record (Bridge.answeredTo id) { config } alone =
          Bridge.record (Bridge.answeredTo id) { config } moves := by
  refine ⟨fun steps => ?_, fun moves => ?_⟩
  · obtain ⟨halike, hreplies⟩ := Bridge.Alike.run steps (.refl id (Bridge.play { config } []))
    obtain ⟨hsame, hanswers⟩ := (Bridge.stilled_new config).run_only? id steps
    exact ⟨⟨halike.found, hreplies⟩, (congrArg (Bridge.find? · id) hsame).trans halike.found,
      hanswers.trans hreplies⟩
  · exact (Bridge.beside_new config id).alone moves

/-- Two connections are opened and written to in turn. -/
def inTurn : List Step :=
  [.acts [.create "a" { sessionId := "a", host := "far", audioCapacity := 8, headerReserve := 2 } none,
      .create "b" { sessionId := "b", host := "far", audioCapacity := 8, headerReserve := 2 } none],
    .acts [.call "b" .connect, .call "a" .connect], .advance [1],
    .acts [.call "a" (.text "one"), .call "b" (.text "two"), .call "a" (.audio [[1, 2, 3]] none)],
    .acts [.call "b" .close], .advance [1]]

/-- What is left of it for one of them. -/
def inTurnAlone : List Step :=
  [.acts [.create "a" { sessionId := "a", host := "far", audioCapacity := 8, headerReserve := 2 } none],
    .acts [.call "a" .connect], .advance [1],
    .acts [.call "a" (.text "one"), .call "a" (.audio [[1, 2, 3]] none)], .advance [1]]

theorem run_without_others_in_turn :
    (Bridge.run { config := {} } inTurnAlone).2.find? "a" =
        (Bridge.run { config := {} } inTurn).2.find? "a" ∧
      replies "a" inTurnAlone (Bridge.run { config := {} } inTurnAlone).1 =
        replies "a" inTurn (Bridge.run { config := {} } inTurn).1 := by
  have hleft : inTurn.filterMap (·.only? "a") = inTurnAlone := by decide
  have halone := ((run_without_others {} "a").1 inTurn).2
  rw [hleft] at halone
  exact halone

end VoiceBridge
