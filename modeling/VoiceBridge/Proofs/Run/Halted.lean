import VoiceBridge.Proofs.Run.Clock
import VoiceBridge.Proofs.Run.Refusal

/-!
# Work that is offered to a stopped service

After the shutdown no driver takes a step any more: nothing is sent and nothing is delivered (`Halted`).
A connection that was open stays connected until somebody closes it, and with it stays its mark that it
stands in the write queue. The shutdown empties the queue and leaves the mark, so that a text or a finish
signal is told `ok` as if a turn were still to come. Work is refused only on a connection for which no
turn had been asked when the service was stopped.
-/

namespace VoiceBridge

namespace Connection

variable {c c' : Connection} {q : Requests}

/-- What a stopped service makes of a connection. -/
structure Halted (c c' : Connection) : Prop where
  state : c'.state = c.state ∨ c.state = .connected ∧ c'.state = .disconnecting
  writeQueued : c'.writeQueued = c.writeQueued
  sent : c'.wire.sent = c.wire.sent
  events : c'.events = c.events

theorem Halted.refl (c : Connection) : Halted c c := ⟨.inl rfl, rfl, rfl, rfl⟩

theorem Halted.trans {c'' : Connection} (h : Halted c c') (h' : Halted c' c'') : Halted c c'' where
  state := state_trans h.state h'.state
  writeQueued := h'.writeQueued.trans h.writeQueued
  sent := h'.sent.trans h.sent
  events := h'.events.trans h.events

theorem writeQueued_requestWrite (hs : q.stopped = true) :
    (c.requestWrite q).2.1.writeQueued = c.writeQueued := by
  rw [requestWrite_eq, hs]
  exact Bool.or_false _

theorem writeQueued_queueText (s : String) (hs : q.stopped = true) :
    (c.queueText s q).2.1.writeQueued = c.writeQueued := by
  unfold queueText
  split
  all_goals first | rfl | exact writeQueued_requestWrite hs

/-- No call asks for a turn any more. -/
theorem writeQueued_perform (call : Call) (hs : q.stopped = true) :
    (c.perform q call).2.1.writeQueued = c.writeQueued := by
  have hkept : KeptByCalls (fun d p => p.stopped = true ∧ d.writeQueued = c.writeQueued)
      (fun d p => p.stopped = true ∧ d.writeQueued = c.writeQueued) :=
    { connect := fun {d p} h => by
        obtain ⟨_, heq⟩ := connect_effect d p
        exact ⟨(CallFrame.connect d p).stopped.trans h.1, by rw [heq]; exact h.2⟩
      close := fun {d p} h => by
        obtain ⟨_, _, heq⟩ := close_effect d p
        exact ⟨(CallFrame.close d p).stopped.trans h.1, by rw [heq]; exact h.2⟩
      subscribe := fun h => h
      finish := fun {d p} h => by
        refine ⟨(CallFrame.finish d p).stopped.trans h.1, ?_⟩
        unfold Connection.finish
        split
        · exact h.2
        · exact (writeQueued_requestWrite h.1).trans h.2
      queueText := fun s h =>
        ⟨(CallFrame.queueText _ s _).stopped.trans h.1, (writeQueued_queueText s h.1).trans h.2⟩
      queueHeld := fun s h =>
        ⟨(CallFrame.queueText _ s _).stopped.trans h.1, (writeQueued_queueText s h.1).trans h.2⟩
      warn := fun _ h => h
      drop := fun {d p} h => by
        obtain ⟨_, heq⟩ := dropHandle_effect d
        exact ⟨h.1, by rw [heq]; exact h.2⟩
      hold := fun h => h
      write := fun {d p} chunk h => by
        obtain ⟨_, _, heq⟩ := writeAudio_effect d chunk
        exact ⟨h.1, by rw [heq]; exact h.2⟩
      commit := fun _ _ h => h
      release := fun {d p} h => by
        refine ⟨(CallFrame.releaseAudio d p).stopped.trans h.1, ?_⟩
        unfold Connection.releaseAudio
        split
        · exact (writeQueued_requestWrite h.1).trans h.2
        · exact h.2 }
  exact (hkept.perform call ⟨hs, rfl⟩).2

theorem Halted.perform (call : Call) (hs : q.stopped = true) : Halted c (c.perform q call).2.1 where
  state := (CallFrame.perform c q call).state
  writeQueued := writeQueued_perform call hs
  sent := by rw [(CallFrame.perform c q call).wire]
  events := (CallFrame.perform c q call).events

end Connection

namespace Bridge

variable {b : Bridge} {c c' : Connection} {m : Move} {id : String}

theorem halted_change (hs : b.queues.stopped = true) (h : Change b c m c') : c.Halted c' := by
  cases h with
  | @call call => exact .perform call hs
  | @far call =>
    obtain ⟨_, _, hfar⟩ := c.farCall_eq call
    rw [hfar]
    exact ⟨.inl rfl, rfl, rfl, rfl⟩
  | unheld | other | spared => exact .refl c
  | takenUp running | progress running | cut running =>
    rw [hs] at running
    cases running

/-- What a stopped service makes of a connection in the course of a run. -/
theorem halted_play (moves : List Move) {b : Bridge} {c : Connection}
    (hb : ∀ c ∈ b.roster, c.Standing b.queues.stopped) (hs : b.queues.stopped = true)
    (hc : b.find? id = some c) : ∃ c', (b.play moves).find? id = some c' ∧ c.Halted c' := by
  induction moves generalizing b c with
  | nil => exact ⟨c, hc, .refl c⟩
  | cons m moves ih =>
    obtain ⟨d, hd, hchange⟩ := find?_move_of_some hb hc m
    obtain ⟨c', hc', hhalted⟩ :=
      ih (Connection.standing_kept.move hb m) (stopped_move hs m) hd
    exact ⟨c', hc', (halted_change hs hchange).trans hhalted⟩

/-- A stopped service makes no connections. -/
theorem find?_play_of_stopped (moves : List Move) {b : Bridge}
    (hb : ∀ c ∈ b.roster, c.Standing b.queues.stopped) (hs : b.queues.stopped = true)
    (hc : b.find? id = none) : (b.play moves).find? id = none := by
  induction moves generalizing b with
  | nil => exact hc
  | cons m moves ih =>
    refine ih (Connection.standing_kept.move hb m) (stopped_move hs m) ?_
    by_contra hne
    obtain ⟨c, hc'⟩ := Option.ne_none_iff_exists'.mp hne
    obtain ⟨config, panicsOn, rfl, _⟩ := find?_move_of_none hb hc hc'
    rw [move_act, act_create, create, if_pos hs] at hne
    exact hne hc

/-- A connection that is connected after the shutdown was so before, and as long as the clock reached, a turn
is asked for exactly if it stood in the write queue. -/
theorem writeQueued_after_shutdown {config : ServiceConfig} {before after : List Move}
    (hrunning : (play { config } before).queues.stopped = false)
    (hc : (play { config } (before ++ .act .shutdown :: after)).find? id = some c)
    (hreach : (play { config } before).ClockReaches c.config.profile) (hconn : c.state = .connected) :
    c.writeQueued = true ↔ id ∈ (play { config } before).queues.writes := by
  have hb := Connection.standing_kept.move (Connection.standing_kept.play config before) (.act .shutdown)
  have hstopped := stopped_move_shutdown (play { config } before)
  rw [play_append, play_cons] at hc
  cases hd : (play { config } before).find? id with
  | none =>
    have hnone : ((play { config } before).move (.act .shutdown)).find? id = none := by
      obtain ⟨_, hfind⟩ := find?_shutdown hrunning id
      rw [hd] at hfind
      exact hfind
    rw [find?_play_of_stopped after hb hstopped hnone] at hc
    cases hc
  | some d =>
    obtain ⟨_, hfind⟩ := find?_shutdown hrunning id
    rw [hd] at hfind
    obtain ⟨c', hc', hhalted⟩ := halted_play after hb hstopped hfind
    rw [hc] at hc'
    cases hc'
    -- The driver of the connection was at work, so that its mark was right.
    have hopen : d.state = .connected := by
      rcases hhalted.state with hs | ⟨_, hs⟩
      · exact hs.symm.trans hconn
      · rw [hconn] at hs
        cases hs
    have hsame : c.config = d.config := by
      refine config_eq_of_play (.act .shutdown :: after) (wired_play config before) hd ?_
      rw [play_cons]
      exact hc
    have hdriven := isDriven_of_state (List.mem_of_find?_eq_some hd) hrunning (hsame ▸ hreach) (.inl hopen)
    have halive : d.isAlive = true := by simp [Connection.isAlive, hdriven]
    have hcount := ((vigilant_play config before hrunning).watched id d hd).2.1.writes halive
    rw [id_of_find? hd] at hcount
    have hmark : c.writeQueued = d.writeQueued := hhalted.writeQueued
    rw [hmark, ← List.count_pos_iff, hcount]
    cases d.writeQueued <;> simp

end Bridge

/-- After the shutdown, on a connection that is still connected, every close is refused. As long as the clock
reached, a finish signal and a text are refused exactly if no turn of the connection was asked for at the
moment of the shutdown, and otherwise they are told `ok`. Nothing more is sent or delivered in any case. -/
theorem work_after_shutdown (config : ServiceConfig) (before after : List Move) (id : String)
    (c : Connection) (hrunning : (Bridge.play { config } before).queues.stopped = false)
    (hc : (Bridge.play { config } (before ++ .act .shutdown :: after)).find? id = some c)
    (hheld : c.held = true) (hconn : c.state = .connected) :
    let b := Bridge.play { config } (before ++ .act .shutdown :: after)
    let asked := id ∈ (Bridge.play { config } before).queues.writes
    (∀ call, call = .close ∨ call = .closeWithCompletion →
      (b.act (.call id call)).1 = .refused .serviceStopped) ∧
    ((Bridge.play { config } before).ClockReaches c.config.profile →
      ∀ call, call = .finish ∨ (∃ s, call = .text s) →
        (b.act (.call id call)).1 = if asked then .done else .refused .serviceStopped) ∧
    ∀ later, ∃ c', (b.play later).find? id = some c' ∧ c'.wire.sent = c.wire.sent ∧
      c'.events = c.events := by
  intro b asked
  have hstopped : b.queues.stopped = true := by
    have hsplit : b = ((Bridge.play { config } before).move (.act .shutdown)).play after :=
      Bridge.play_append _ _ _
    rw [hsplit]
    exact Bridge.stopped_play (Bridge.stopped_move_shutdown _) after
  refine ⟨fun call hcall => ?_, fun hreach call hcall => ?_, fun later => ?_⟩
  · rw [Bridge.act_call_answer hc hheld]
    have hclose : (c.close b.queues).1 = .error .serviceStopped := by
      unfold Connection.close
      rw [hconn]
      dsimp only
      rw [Connection.beginDisconnect_eq hconn, WorkQueues.enqueue_of_stopped hstopped]
    rcases hcall with rfl | rfl
    · exact Answer.ofUnit_eq_refused.mpr hclose
    · refine Answer.ofUnit_eq_refused.mpr ?_
      rcases c.closeWithCompletion_cases b.queues with ⟨hok, _⟩ | ⟨_, hsame⟩
      · rw [hclose] at hok
        cases hok
      · exact congrArg Prod.fst hsame |>.trans hclose
  · have hmark : c.writeQueued = true ↔ asked :=
      Bridge.writeQueued_after_shutdown hrunning hc hreach hconn
    rw [Bridge.act_call_answer hc hheld]
    have hturn : ∀ d : Connection, d.writeQueued = c.writeQueued →
        Answer.ofUnit (d.requestWrite b.queues).1 =
          if asked then .done else .refused .serviceStopped := by
      intro d hd
      rw [Connection.requestWrite_of_stopped hstopped, hd]
      simp only [hmark]
      split <;> rfl
    rcases hcall with rfl | ⟨s, rfl⟩
    · change Answer.ofUnit (c.finish b.queues).1 = _
      rw [Connection.finish, if_neg (not_not.mpr hconn)]
      exact hturn _ rfl
    · change Answer.ofUnit (c.queueText s b.queues).1 = _
      unfold Connection.queueText
      rw [hconn]
      exact hturn _ rfl
  · have hb := Connection.standing_kept.play config (before ++ .act .shutdown :: after)
    obtain ⟨c', hc', hhalted⟩ := Bridge.halted_play later hb hstopped hc
    exact ⟨c', hc', hhalted.sent, hhalted.events⟩

/-- A text is queued on an open connection and has not been taken up. -/
def textQueued : List Move :=
  [.act (.create "a" { sessionId := "a", host := "far" } none), .act (.call "a" .connect), .loop,
    .wait 1, .errand 0 .dial, .act (.call "a" (.text "one"))]

/-- The service that is stopped then still takes a text, which nobody will send. -/
theorem work_after_shutdown_textQueued :
    let b := Bridge.play { config := {} } (textQueued ++ [.act .shutdown])
    (b.act (.call "a" (.text "two"))).1 = .done ∧
      (b.act (.call "a" .close)).1 = .refused .serviceStopped ∧
      ∃ c, (b.play [.act (.call "a" (.text "two")), .loop, .errand 0 .turn]).find? "a" = some c ∧
        c.wire.sent = [] := by
  have hopen : ((Bridge.play { config := {} } (textQueued ++ [.act .shutdown])).find? "a").any
      (fun c => decide (c.held = true ∧ c.state = .connected ∧ c.wire.sent = [] ∧
        (Bridge.play { config := {} } textQueued).ClockReaches c.config.profile)) = true := by
    decide +kernel
  obtain ⟨c, hc, hstands⟩ := (Option.any_eq_true _ _).mp hopen
  obtain ⟨hheld, hconn, hsent, hreach⟩ := of_decide_eq_true hstands
  have hasked : "a" ∈ (Bridge.play { config := {} } textQueued).queues.writes := by decide +kernel
  obtain ⟨hclose, htext, hlater⟩ :=
    work_after_shutdown {} textQueued [] "a" c (by decide +kernel) hc hheld hconn
  obtain ⟨c', hc', hsent', _⟩ := hlater [.act (.call "a" (.text "two")), .loop, .errand 0 .turn]
  refine ⟨?_, hclose .close (.inl rfl), c', hc', hsent'.trans hsent⟩
  exact (htext hreach (.text "two") (.inr ⟨_, rfl⟩)).trans (if_pos hasked)

end VoiceBridge
