import VoiceBridge.Proofs.Connection.Parted

/-!
# Letting go of the handle

A request in the work queues does not keep its connection; the handle does, and the driver. So to drop the
handle of a connection whose request to connect has been taken up changes nothing that anybody sees, now or
later, and to drop it before means that the request is never taken up (`drop_unseen`).

`Parting` relates a bridge to the same one in which the handle of a name has been dropped. A move that is
made in both keeps the two so (`Parting.move`), and so does every settling (`Parting.settle`), as both
take the same steps.
-/

namespace VoiceBridge

namespace Bridge

variable {b b' : Bridge} {id : String}

/-! ### A bridge and the same one in which a handle has been dropped -/

/-- The same bridge but for the connection of the name, which has lost its handle in the second. -/
structure Parting (id : String) (b b' : Bridge) : Prop where
  roster : List.Forall₂ (fun c c' => c.Standing b.queues.stopped ∧ c.Parted id c') b.roster b'.roster
  rest : b' = { b with roster := b'.roster }

theorem Parting.find? (h : Parting id b b') (name : String) :
    b.find? name = none ∧ b'.find? name = none ∨
      ∃ c c', b.find? name = some c ∧ b'.find? name = some c' ∧
        c.Standing b.queues.stopped ∧ c.Parted id c' :=
  rel_find? (fun hc => hc.2.id_eq) h.roster name

theorem Parting.put (h : Parting id b b') {name : String} {c c' : Connection} {q : Requests}
    (hq : q.stopped = b.queues.stopped) (hstanding : c.Standing q.stopped) (hc : c.Parted id c') :
    Parting id (b.put name c q) (b'.put name c' q) := by
  obtain ⟨hroster, hrest⟩ := h
  rw [← hq] at hroster
  refine ⟨rel_modifyIn (fun hc => hc.2.id_eq) (fun _ => ⟨hstanding, hc⟩) hroster, ?_⟩
  rw [hrest]
  rfl

theorem Parting.create (h : Parting id b b') (name : String) (config : ConnectionConfig)
    (panicsOn : Option String) :
    Parting id (b.move (.act (.create name config panicsOn)))
      (b'.move (.act (.create name config panicsOn))) := by
  obtain ⟨hroster, hrest⟩ := h
  generalize b'.roster = l at hroster hrest
  subst hrest
  rw [move_act, move_act, act_create, act_create]
  unfold Bridge.create
  dsimp only
  by_cases hs : b.queues.stopped = true
  · rw [if_pos hs, if_pos hs]
    exact ⟨hroster, rfl⟩
  · rw [if_neg hs, if_neg hs]
    cases hc : Connection.create name config panicsOn with
    | error e => exact ⟨hroster, rfl⟩
    | ok c =>
      have hnew : List.Forall₂ (fun c c' => c.Standing b.queues.stopped ∧ c.Parted id c') [c] [c] :=
        .cons ⟨.of_create hc, .same⟩ .nil
      exact ⟨List.rel_append hroster hnew, rfl⟩

/-- A call on another handle does the same in both, and so does one that finds the handle dropped before or
drops it now. -/
theorem Parting.call (h : Parting id b b') {name : String} {call : Call}
    (hcall : name = id → call = .drop) :
    Parting id (b.move (.act (.call name call))) (b'.move (.act (.call name call))) := by
  have hqueues : b'.queues = b.queues := by rw [h.rest]
  rw [move_act, move_act, act_call, act_call]
  rcases h.find? name with ⟨hnone, hnone'⟩ | ⟨c, c', hc, hc', hstanding, hparted⟩
  · rw [hnone, hnone']
    exact h
  · have hframe := Connection.CallFrame.perform c b.queues call
    have hkept : (c.perform b.queues call).2.1.Standing (c.perform b.queues call).2.2.stopped := by
      rw [hframe.stopped]
      exact hstanding.frame hframe
    rw [hc, hc', hqueues]
    dsimp only
    rcases hparted.eq_or_dropped with rfl | ⟨hname, hheld', hdropped⟩
    · split
      · exact h.put hframe.stopped hkept .same
      · exact h
    · have hdrop := hcall ((id_of_find? hc).symm.trans hname)
      subst hdrop
      simp only [hheld', Bool.false_eq_true, if_false]
      split
      · have hput : Parting id (b.put name c.dropHandle b.queues) (b'.put name c' b.queues) :=
          h.put hframe.stopped hkept hdropped
        rwa [← hqueues, put_self hc', hqueues] at hput
      · exact h

theorem Parting.far (h : Parting id b b') (name : String) (call : FarCall) :
    Parting id (b.move (.act (.far name call))) (b'.move (.act (.far name call))) := by
  have hqueues : b'.queues = b.queues := by rw [h.rest]
  rw [move_act, move_act, act_far, act_far]
  rcases h.find? name with ⟨hnone, hnone'⟩ | ⟨c, c', hc, hc', hstanding, hparted⟩
  · rw [hnone, hnone']
    exact h
  · have hopened : c'.wire.opened = c.wire.opened := by cases hparted <;> rfl
    have hkept := Connection.standing_kept.far call hstanding
    rw [hc, hc', hqueues]
    dsimp only
    rw [hopened]
    split
    · exact h.put rfl hkept (hparted.farCall call)
    · exact h

theorem Parting.shutdown (h : Parting id b b') : Parting id b.shutdown b'.shutdown := by
  obtain ⟨hroster, hrest⟩ := h
  generalize b'.roster = l at hroster hrest
  subst hrest
  cases hs : b.queues.stopped with
  | true =>
    rw [shutdown_of_stopped hs, shutdown_of_stopped (b := { b with roster := l }) hs]
    exact ⟨hroster, rfl⟩
  | false =>
    rw [hs] at hroster
    have hlet : ∀ {c c' : Connection}, c.Standing false ∧ c.Parted id c' →
        (letGo c).Standing false ∧ (letGo c).Parted id (letGo c') := by
      refine fun {c _} hc => ⟨?_, hc.2.letGo⟩
      unfold letGo
      split
      · exact Connection.standing_kept.abandon hc.1
      · exact hc.1
    have hleft := rel_modifyEach (fun hc => hc.2.id_eq) hlet b.queues.connects hroster
    rw [shutdown_of_not_stopped hs, shutdown_of_not_stopped (b := { b with roster := l }) hs]
    exact ⟨List.rel_map (fun _ _ hc => ⟨Connection.standing_kept.shutdown hc.1, hc.2.driverGone hc.1⟩)
      hleft, rfl⟩

theorem Parting.loopRound (h : Parting id b b') (hs : b.queues.stopped = false) :
    Parting id b.loopRound b'.loopRound := by
  obtain ⟨hroster, hrest⟩ := h
  generalize b'.roster = l at hroster hrest
  subst hrest
  cases hw : b.queues.wake with
  | false =>
    rw [loopRound_of_not_wake hw, loopRound_of_not_wake (b := { b with roster := l }) hw]
    exact ⟨hroster, rfl⟩
  | true =>
    have hkept := Connection.standing_kept
    rw [hs] at hroster
    have hid : ∀ {c c' : Connection}, c.Standing false ∧ c.Parted id c' → c'.id = c.id :=
      fun hc => hc.2.id_eq
    have hround := rel_modifyEach hid
      (fun hc => ⟨hkept.takeWrite hc.1, hc.2.takeWrite⟩) b.queues.writes
      (rel_modifyEach hid (fun hc => ⟨hkept.takeDisconnect hc.1, hc.2.takeDisconnect⟩)
        b.queues.disconnects
        (rel_modifyEach hid (fun hc => ⟨hkept.takeConnect b hc.1, hc.2.takeConnect b hc.1⟩)
          b.queues.connects hroster))
    rw [loopRound_of_wake hw, loopRound_of_wake (b := { b with roster := l }) hw]
    refine ⟨?_, rfl⟩
    dsimp only
    rw [hs]
    exact hround

theorem Parting.withRoster (h : Parting id b b') {l l' : List Connection}
    (hl : List.Forall₂ (fun c c' => c.Standing b.queues.stopped ∧ c.Parted id c') l l') :
    Parting id { b with roster := l } { b' with roster := l' } := by
  refine ⟨hl, ?_⟩
  rw [h.rest]

/-- A driver takes the same step in both bridges. -/
theorem Parting.modify (h : Parting id b b') (hs : b.queues.stopped = false)
    {f : Connection → Connection}
    (hf : ∀ {c c' : Connection}, c.Parted id c' → c.Standing false →
      (f c).Standing false ∧ (f c).Parted id (f c')) (n : Nat) :
    Parting id { b with roster := b.roster.modify n f } { b' with roster := b'.roster.modify n f } := by
  refine h.withRoster (rel_modify (fun hc => ?_) n h.roster)
  rw [hs] at hc ⊢
  exact hf hc.2 hc.1

/-- Every move that is made in both keeps the two as they are, as long as the handle is not called. -/
theorem Parting.move (h : Parting id b b') {m : Move}
    (hm : ∀ call, m = .act (.call id call) → call = .drop) :
    Parting id (b.move m) (b'.move m) := by
  have hqueues : b'.queues = b.queues := by rw [h.rest]
  have hcontext : b'.context = b.context := by rw [h.rest]; rfl
  cases m with
  | act action =>
    cases action with
    | create name config panicsOn => exact h.create name config panicsOn
    | call name call => exact h.call fun hname => hm call (by rw [hname])
    | far name call => exact h.far name call
    | shutdown => exact h.shutdown
    | openedCount | settings => exact h
    | _ => exact ⟨h.roster, by rw [h.rest]; rfl⟩
  | loop =>
    unfold Bridge.move
    rw [hqueues]
    cases hs : b.queues.stopped with
    | true => exact h
    | false => exact h.loopRound hs
  | errand n e =>
    unfold Bridge.move
    rw [hqueues]
    cases hs : b.queues.stopped with
    | true => exact h
    | false =>
      unfold seeToOne
      rw [hcontext]
      exact h.modify hs (fun hc hstanding => hc.seeTo? hstanding e) n
  | wait nanos => exact ⟨h.roster, by rw [h.rest]; rfl⟩

theorem Parting.play {moves : List Move} (h : Parting id b b')
    (hmoves : ∀ call, .act (.call id call) ∈ moves → call = .drop) :
    Parting id (b.play moves) (b'.play moves) := by
  induction moves generalizing b b' with
  | nil => exact h
  | cons m moves ih =>
    exact ih (h.move fun call hm => hmoves call (hm ▸ List.mem_cons_self))
      fun call hcall => hmoves call (List.mem_cons_of_mem _ hcall)

/-! ### Scenarios -/

theorem Parting.actAll {actions : List Action} (h : Parting id b b')
    (hactions : ∀ call, .call id call ∈ actions → call = .drop) :
    Parting id (b.actAll actions).2 (b'.actAll actions).2 := by
  rw [actAll_eq, actAll_eq]
  refine h.play fun call hcall => hactions call ?_
  simpa using hcall

theorem Parting.settle (h : Parting id b b') : Parting id b.settle b'.settle := by
  have hqueues : b'.queues = b.queues := by rw [h.rest]
  unfold Bridge.settle
  rw [hqueues]
  cases hs : b.queues.stopped with
  | true => exact h
  | false =>
    have hround := h.loopRound hs
    have hcontext : b'.loopRound.context = b.loopRound.context := by rw [hround.rest]; rfl
    have hs' : b.loopRound.queues.stopped = false := (stopped_loopRound b).trans hs
    refine hround.withRoster (List.rel_map (fun c c' hc => ?_) hround.roster)
    rw [hs'] at hc ⊢
    rw [hcontext]
    exact hc.2.drive hc.1

theorem Parting.advance (jumps : List Nat) (h : Parting id b b') :
    Parting id (b.advance jumps) (b'.advance jumps) := by
  induction jumps generalizing b b' with
  | nil => exact h
  | cons nanos jumps ih =>
    have hlater : Parting id { b with now := b.now + nanos } { b' with now := b'.now + nanos } :=
      ⟨h.roster, by rw [h.rest]⟩
    exact ih hlater.settle

theorem Parting.run {steps : List Step} (h : Parting id b b')
    (hsteps : ∀ call, .call id call ∈ steps.flatMap Step.actions → call = .drop) :
    Parting id (b.run steps).2 (b'.run steps).2 := by
  induction steps generalizing b b' with
  | nil => exact h
  | cons step steps ih =>
    have hstep : Parting id (b.step step).2 (b'.step step).2 := by
      cases step with
      | acts actions =>
        exact (h.actAll fun call hcall => hsteps call (List.mem_append_left _ hcall)).settle
      | advance jumps => exact h.advance jumps
    exact ih hstep fun call hcall => hsteps call (List.mem_append_right _ hcall)

/-- Who looks at the connections from outside sees no difference. -/
theorem Parting.seenAlike (h : Parting id b b') :
    List.Forall₂ Connection.SeenAlike b.roster b'.roster :=
  h.roster.imp fun _ _ hc => hc.2.seenAlike

/-! ### The moment of the drop -/

theorem candid_play (config : ServiceConfig) (moves : List Move) :
    ∀ c ∈ (play { config } moves).roster,
      c.Standing (play { config } moves).queues.stopped ∧ c.Candid :=
  Connection.candid_kept.play config moves

/-- The handle of a connection whose request to connect has been taken up is dropped. -/
theorem parting_of_drop (hb : ∀ c ∈ b.roster, c.Standing b.queues.stopped ∧ c.Candid)
    (hrunning : b.queues.stopped = false) {c : Connection} (hc : b.find? id = some c)
    (hbegun : c.state ≠ .idle) (hwhole : ¬c.CutOff) :
    Parting id b (b.move (.act (.call id .drop))) := by
  have hsame : ∀ d ∈ b.roster, d.Standing b.queues.stopped ∧ d.Parted id d :=
    fun d hd => ⟨(hb d hd).1, .same⟩
  obtain ⟨hstanding, hcandid⟩ := hb c (List.mem_of_find?_eq_some hc)
  have hname := id_of_find? hc
  have hparted : c.Parted id c.dropHandle := by
    cases hd : c.isDriven with
    | true =>
      rw [Connection.dropHandle_eq_unheld (.inl hd)]
      exact .driven hname hd
    | false =>
      have htold := hcandid.told (hrunning ▸ hstanding) hbegun hd hwhole
      have hloose : c.Parted id (c.loose c.writable c.writeQueued) :=
        .undriven hname hbegun hd htold
      rw [Connection.dropHandle_eq_unheld (.inr htold)]
      exact hloose
  rw [move_act, act_call, hc]
  dsimp only
  split
  · refine ⟨rel_modifyIn_self hsame fun d hd => ?_, rfl⟩
    have hd : b.find? id = some d := hd
    rw [hc] at hd
    cases hd
    exact ⟨hstanding, hparted⟩
  · exact ⟨List.forall₂_same.mpr hsame, rfl⟩

/-! ### A drop ahead of the pick-up -/

/-- Nothing happens any more to an idle connection whose handle has been dropped. -/
theorem idle_of_unheld {c c' : Connection} {m : Move} (hfind : b.find? id = some c)
    (hfind' : (b.move m).find? id = some c') (hstanding : c.Standing b.queues.stopped)
    (h : Change b c m c') (hheld : c.held = false) (hidle : c.state = .idle) :
    c'.held = false ∧ c'.state = .idle ∧ c'.waits = c.waits := by
  have hundriven := hstanding.undriven_of_idle hidle
  have hgone : c.isAlive = false := by rw [Connection.isAlive, hheld, hundriven, Bool.or_false]
  cases h with
  | call held =>
    rw [hheld] at held
    cases held
  | @far call =>
    obtain ⟨_, _, hfar⟩ := c.farCall_eq call
    rw [hfar]
    exact ⟨hheld, hidle, rfl⟩
  | takenUp =>
    obtain ⟨_, _, _, heq, _, rfl | ⟨halive, _⟩⟩ := takenUp_cases b c
    · rw [heq]
      exact ⟨hheld, hidle, rfl⟩
    · rw [hgone] at halive
      cases halive
  | progress _ progress =>
    rw [progress.isDriven] at hundriven
    cases hundriven
  | cut running =>
    have hspared : letGo c = c := if_neg (by simp [hgone])
    have hshutdown : b.shutdown.find? id = some c := by
      rw [find?_shutdown_eq running, hfind]
      simp [hundriven, hspared]
    have hwaits := congrArg Connection.waits (Option.some.inj (hshutdown.symm.trans hfind'))
    exact ⟨hheld, hidle, hwaits.symm⟩
  | unheld | other | spared => exact ⟨hheld, hidle, rfl⟩

/-- The request to connect is never taken up, and with the handle go all who wait. -/
theorem forsaken_play {config : ServiceConfig} {before : List Move} {c : Connection}
    (hc : (play { config } before).find? id = some c) (hheld : c.held = true)
    (hidle : c.state = .idle) (after : List Move) :
    ∃ d, ((play { config } before).play
        (.act (.call id .drop) :: after)).find? id = some d ∧
      d.phase = .absent ∧ d.wire.opened = false ∧ d.wire.sent = [] ∧ d.events = [] ∧
      d.waits = c.waits.map fun _ => .abandoned := by
  have hall := play_split { config } before (.act (.call id .drop)) after
  have hkept := wired_play config (before ++ [.act (.call id .drop)])
  rw [play_concat] at hkept
  obtain ⟨hstanding, hcandid⟩ := candid_play config before c (List.mem_of_find?_eq_some hc)
  have hfind : ((play { config } before).move (.act (.call id .drop))).find? id =
      some c.dropHandle := find?_call_held hc hheld .drop
  obtain ⟨waits, hdropped⟩ := c.dropHandle_effect
  obtain ⟨d, hd, -, hidle', hwaits⟩ := exists_play_along
    (P := fun _ d => d.held = false ∧ d.state = .idle ∧ d.waits = c.dropHandle.waits)
    (fun _ hfind hfind' hstanding _ hchange h => by
      obtain ⟨hheld, hidle, hsame⟩ := idle_of_unheld hfind hfind' hstanding hchange h.1 h.2.1
      exact ⟨hheld, hidle, hsame.trans h.2.2⟩)
    after (along_true _ _) hkept hfind ⟨by rw [hdropped], by rw [hdropped]; exact hidle, rfl⟩
  have hmem := List.mem_of_find?_eq_some hd
  rw [← hall] at hmem
  obtain ⟨hstanding', hwired⟩ := wired_play config _ d hmem
  obtain ⟨-, hcandid'⟩ := candid_play config _ d hmem
  obtain ⟨habsent, -, hevents⟩ := hstanding'.of_idle hidle'
  exact ⟨d, hd, habsent, hcandid'.unopened hidle', hwired.unopened (by simp [habsent]) (by simp [habsent]),
    hevents, hwaits.trans (hcandid.waits_dropHandle hstanding hidle)⟩

end Bridge

open Bridge in
/-- Behind the pick-up of the request to connect the handle can be dropped at any moment before the
shutdown at which the clock reaches, and nobody sees it: if it is not called any more, then in every
continuation of the run, in whatever order the loop and the drivers go on, and in every scenario that goes
on from there, all connections deliver the same events, all far ends receive the same and all who wait are
told the same as without the drop. If it is dropped ahead of the pick-up, the wire is never asked for,
nothing is delivered or sent, and all who wait are let go of, whatever follows. -/
theorem drop_unseen (config : ServiceConfig) (before : List Move) (id : String) (c : Connection)
    (hc : (play { config } before).find? id = some c) :
    let b := play { config } before
    (b.queues.stopped = false → c.state ≠ .idle → b.ClockReaches c.config.profile →
      (∀ after : List Move,
        (∀ call, .act (.call id call) ∈ after → call = .drop) →
          List.Forall₂ Connection.SeenAlike (b.play after).roster
            (b.play (.act (.call id .drop) :: after)).roster) ∧
      ∀ (actions : List Action) (steps : List Step),
        (∀ call, .call id call ∈ actions ++ steps.flatMap Step.actions → call = .drop) →
          List.Forall₂ Connection.SeenAlike (b.run (.acts actions :: steps)).2.roster
            (b.run (.acts (.call id .drop :: actions) :: steps)).2.roster) ∧
    (c.held = true → c.state = .idle → ∀ after : List Move,
      ∃ d, (b.play (.act (.call id .drop) :: after)).find? id = some d ∧
        d.phase = .absent ∧ d.wire.opened = false ∧ d.wire.sent = [] ∧ d.events = [] ∧
        d.waits = c.waits.map fun _ => .abandoned) := by
  intro b
  refine ⟨fun hrunning hbegun hreach => ?_,
    fun hheld hidle after => forsaken_play hc hheld hidle after⟩
  have hwhole := not_cutOff (List.mem_of_find?_eq_some hc) hrunning hreach
  have hparting := parting_of_drop (candid_play config before) hrunning hc hbegun hwhole
  refine ⟨fun after hafter => (hparting.play hafter).seenAlike, fun actions steps hlater => ?_⟩
  have hacts : Parting id (b.actAll actions).2 (b.actAll (.call id .drop :: actions)).2 :=
    hparting.actAll fun call hcall => hlater call (List.mem_append_left _ hcall)
  exact (hacts.settle.run fun call hcall => hlater call (List.mem_append_right _ hcall)).seenAlike

/-- A connection is made and asked to connect, and somebody waits for its end. -/
def engaged : List Move :=
  [.act (.create "a" { sessionId := "a", host := "far" } none),
    .act (.call "a" .connect), .act (.call "a" .closeWithCompletion)]

/-- A text is queued, the wire is opened and the close takes effect. -/
def farewell : List Move :=
  [.act (.call "a" (.text "bye")), .loop, .wait 1, .errand 0 .dial]

/-- The text and the close frame are sent and the reply is taken in. -/
def concluding : List Move :=
  [.loop, .errand 0 .turn, .errand 0 .turn, .errand 0 .arrival]

/-- Dropped behind the pick-up, the handle is not missed; dropped ahead of it, it takes the connection
along. -/
theorem drop_unseen_farewell :
    (∀ d ∈ ((Bridge.play { config := {} } (engaged ++ farewell)).play
        (.act (.call "a" .drop) :: concluding)).roster,
      d.waits = [.resolved .closedGracefully] ∧ d.wire.sent = [.text "bye", .close]) ∧
    (∀ d ∈ ((Bridge.play { config := {} } (engaged ++ farewell)).run
        [.acts [.call "a" .drop], .advance [1]]).2.roster,
      d.waits = [.resolved .closedGracefully] ∧ d.wire.sent = [.text "bye", .close]) ∧
    ∃ d, ((Bridge.play { config := {} } engaged).play
        (.act (.call "a" .drop) :: farewell)).find? "a" = some d ∧
      d.wire.opened = false ∧ d.waits = [.abandoned] := by
  have hopened : ((Bridge.play { config := {} } (engaged ++ farewell)).find? "a").any
      (fun c => decide (c.state ≠ .idle ∧
        (Bridge.play { config := {} } (engaged ++ farewell)).ClockReaches c.config.profile)) = true := by
    decide +kernel
  have hasked : ((Bridge.play { config := {} } engaged).find? "a").any
      (fun c => decide (c.held = true ∧ c.state = .idle ∧ c.waits = [.pending])) = true := by
    decide +kernel
  obtain ⟨c, hc, hopened⟩ := (Option.any_eq_true _ _).mp hopened
  obtain ⟨hbegun, hreach⟩ := of_decide_eq_true hopened
  obtain ⟨hplay, hrun⟩ :=
    (drop_unseen {} (engaged ++ farewell) "a" c hc).1 (by decide +kernel) hbegun hreach
  have hplay := hplay concluding (by simp [concluding])
  have hrun := hrun [] [.advance [1]] (by simp [Step.actions])
  have hkept : ∀ d ∈ ((Bridge.play { config := {} } (engaged ++ farewell)).play concluding).roster,
      d.waits = [.resolved .closedGracefully] ∧ d.wire.sent = [.text "bye", .close] := by decide +kernel
  have hkept' : ∀ d ∈ ((Bridge.play { config := {} } (engaged ++ farewell)).run
        [.acts [], .advance [1]]).2.roster,
      d.waits = [.resolved .closedGracefully] ∧ d.wire.sent = [.text "bye", .close] := by decide +kernel
  obtain ⟨e, he, hidle⟩ := (Option.any_eq_true _ _).mp hasked
  obtain ⟨hheld, hidle, hwaits⟩ := of_decide_eq_true hidle
  obtain ⟨d, hd, -, hunopened, -, -, hlost⟩ := (drop_unseen {} engaged "a" e he).2 hheld hidle farewell
  refine ⟨fun d' hd' => ?_, fun d' hd' => ?_, d, hd, hunopened, by rw [hlost, hwaits]; rfl⟩
  · obtain ⟨d, hd, hseen⟩ := Bridge.exists_of_mem_forall₂ hplay hd'
    rw [hseen.waits, hseen.wire]
    exact hkept d hd
  · obtain ⟨d, hd, hseen⟩ := Bridge.exists_of_mem_forall₂ hrun hd'
    rw [hseen.waits, hseen.wire]
    exact hkept' d hd

end VoiceBridge
