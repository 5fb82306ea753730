import VoiceBridge.Proofs.Run.Closing
import VoiceBridge.Proofs.Run.Completion
import VoiceBridge.Proofs.Run.PickUp

/-!
# All who wait for a connection are told the same

As long as the service runs and the clock reaches, whoever waits for the end of a connection stands as the
connection does: `word` reads it off the recorded outcome. That is so because every entry among those who
wait began with an accepted `closeWithCompletion` (`exists_wait_call`), whose promise nothing but the end of
the connection or the loss of its handle settles.

The handle can be lost with a promise open only while the connection is idle. The request to connect
that was accepted is then still in its queue, and nobody is left to take it up (`exists_drop`).
-/

namespace VoiceBridge

theorem EventKind.outcome?_eq_failed {e : EventKind} :
    e.outcome? = some .failed ↔ ∃ reason, e = .connectFail reason := by
  cases e <;> simp [EventKind.outcome?]

theorem EventKind.outcome?_eq_dropped {e : EventKind} :
    e.outcome? = some .dropped ↔ e = .connectionDropped := by
  cases e <;> simp [EventKind.outcome?]

theorem EventKind.outcome?_eq_closedGracefully {e : EventKind} :
    e.outcome? = some .closedGracefully ↔ e = .connectionClosedGracefully := by
  cases e <;> simp [EventKind.outcome?]

namespace Connection

variable {c : Connection} {w : Wait}

/-- What those who wait for a connection have been told, as long as the service runs. -/
def word (c : Connection) : Wait :=
  match c.outcome with
  | some o => .resolved o
  | none => if c.state = .idle ∧ c.held = false then .abandoned else .pending

theorem Promise.eq_word (h : Promise false false c w) (hstanding : c.Standing false) (hcut : ¬c.CutOff) :
    w = c.word := by
  unfold word
  cases h with
  | kept outcome => rw [outcome]
  | expected _ _ outcome ahead =>
    have hwaiting : ¬(c.state = .idle ∧ c.held = false) := by
      rintro ⟨hs, hheld⟩
      rcases ahead with hd | ⟨_, _, hh⟩
      · exact hstanding.begun_of_isDriven hd hs
      · simp [hheld] at hh
    simp only [outcome, if_neg hwaiting]
  | letGo outcome undriven cause =>
    have hover : c.phase ≠ .over := fun hover => hcut ⟨hover, outcome⟩
    have hheld : c.held = false := cause.resolve_left fun h => h.2.elim (by simp) hover
    have hs : c.state = .idle := by
      by_contra hs
      rw [hstanding.isDriven_of_not_over hs hover] at undriven
      cases undriven
    simp only [outcome, if_pos (And.intro hs hheld)]
  | stranded _ tardy => cases tardy

theorem word_eq_resolved_iff {o : TerminalOutcome} : c.word = .resolved o ↔ c.outcome = some o := by
  unfold word
  cases c.outcome with
  | some o' => simp
  | none =>
    simp only [reduceCtorEq, iff_false]
    split <;> simp

theorem word_eq_abandoned_iff (hstanding : c.Standing false) :
    c.word = .abandoned ↔ c.state = .idle ∧ c.held = false := by
  unfold word
  cases houtcome : c.outcome with
  | some o =>
    simp only [reduceCtorEq, false_iff]
    rintro ⟨hs, _⟩
    simp [(hstanding.of_idle hs).2.1] at houtcome
  | none => simp

end Connection

namespace Bridge

variable {b : Bridge} {c c' : Connection} {m : Move}

/-- As long as the service runs, a wait begins with a call only. -/
theorem length_waits_change (hrunning : (b.move m).queues.stopped = false) (h : Change b c m c') :
    c'.waits.length = c.waits.length ∨
      m = .act (.call c.id .closeWithCompletion) ∧ c.held = true ∧
        (c.closeWithCompletion b.queues).1 = .ok () ∧ c'.waits.length = c.waits.length + 1 := by
  cases h with
  | @call call held =>
    rcases (c.scope_perform b.queues call).waits with hsame | ⟨rfl, hok, hlength⟩
    · exact .inl hsame
    · exact .inr ⟨rfl, held, hok, hlength⟩
  | @far call =>
    obtain ⟨_, _, hfar⟩ := c.farCall_eq call
    exact .inl (by rw [hfar])
  | takenUp =>
    obtain ⟨_, _, _, heq, _, rfl | ⟨_, _, rfl⟩⟩ := takenUp_cases b c <;> rw [heq] <;> exact .inl rfl
  | progress _ progress =>
    rcases progress.waits with ⟨hsame, _⟩ | ⟨o, hsame, _⟩ | rfl
    · exact .inl (by rw [hsame])
    · exact .inl (by rw [hsame, Connection.resolveWaits, List.length_map])
    · exact .inl (List.length_map _)
  | cut => rw [stopped_move_shutdown] at hrunning; cases hrunning
  | unheld | other | spared => exact .inl rfl

/-- Every entry among those who wait began with a call that was accepted. -/
theorem exists_wait_call {config : ServiceConfig} {moves : List Move} {id : String} {i : Nat}
    (hc : (play { config } moves).find? id = some c)
    (hrunning : (play { config } moves).queues.stopped = false) (hi : i < c.waits.length) :
    ∃ before after d, moves = before ++ .act (.call id .closeWithCompletion) :: after ∧
      (play { config } before).find? id = some d ∧ d.held = true ∧
      (d.closeWithCompletion (play { config } before).queues).1 = .ok () ∧ d.waits.length = i := by
  obtain ⟨before, m, after, d, d', rfl, hd, -, hchange, hnot, hlater⟩ :=
    exists_turn (P := fun c => i < c.waits.length) (fun hcreate => by
      obtain ⟨_, _, rfl⟩ := Connection.create_eq hcreate
      exact Nat.not_lt_zero i) hc hi
  rw [play_append, play_cons] at hrunning
  rcases length_waits_change (running_of_play hrunning) hchange with hsame | ⟨rfl, hheld, hok, hlength⟩
  · exact absurd (hsame ▸ hlater) hnot
  · have hid := id_of_find? hd
    exact ⟨before, after, d, by rw [hid], hd, hheld, hok, by omega⟩

/-- Whoever waits has been told the word of the connection. -/
theorem wait_eq_word {config : ServiceConfig} {moves : List Move} {id : String} {w : Wait}
    (hc : (play { config } moves).find? id = some c)
    (hrunning : (play { config } moves).queues.stopped = false)
    (hreach : (play { config } moves).ClockReaches c.config.profile) (hw : w ∈ c.waits) :
    w = c.word := by
  obtain ⟨i, hi, rfl⟩ := List.mem_iff_getElem.mp hw
  obtain ⟨before, after, d, rfl, hd, hheld, hok, rfl⟩ := exists_wait_call hc hrunning hi
  have hstanding := Connection.standing_kept.play config _ c (List.mem_of_find?_eq_some hc)
  have hcut := not_cutOff (List.mem_of_find?_eq_some hc) hrunning hreach
  obtain ⟨c', hc', w, hw, hpromise⟩ := exists_pledged hd hheld hok after
  rw [hc] at hc'
  cases hc'
  rw [List.getElem?_eq_getElem hi] at hw
  cases hw
  have hlate : ((play { config } before).queues.stopped || decide d.CutOff) = false := by
    rw [play_append] at hc hrunning hreach
    have hearly := running_of_play hrunning
    rw [config_eq_of_play _ (wired_play config before) hd hc] at hreach
    have hintact := not_cutOff (List.mem_of_find?_eq_some hd) hearly hreach.of_play
    simp [hearly, hintact]
  rw [hrunning] at hstanding hpromise
  rw [hlate] at hpromise
  exact hpromise.eq_word hstanding hcut

/-! ### The loss of the handle -/

/-- No connection becomes idle. -/
theorem idle_of_change (hstanding : c.Standing b.queues.stopped) (h : Change b c m c')
    (hs : c'.state = .idle) : c.state = .idle := by
  rcases h.progress_or_undriven with ⟨_, _, _, running, progress⟩ | hundriven
  · rw [running] at hstanding
    exact absurd hs (progress.begun hstanding)
  · rcases hundriven.state with hsame | ⟨_, hs'⟩ | ⟨_, hs'⟩
    · exact hsame ▸ hs
    · simp [hs'] at hs
    · simp [hs'] at hs

/-- An idle connection for which somebody waits has been asked to connect. -/
theorem connectRequested_of_wait {config : ServiceConfig} {moves : List Move} {id : String}
    (hc : (play { config } moves).find? id = some c)
    (hrunning : (play { config } moves).queues.stopped = false) (hs : c.state = .idle)
    (hwaits : c.waits ≠ []) : c.connectRequested = true := by
  obtain ⟨before, after, d, rfl, hd, hheld, hok, -⟩ :=
    exists_wait_call hc hrunning (List.length_pos_of_ne_nil hwaits)
  have hb := Connection.wired_kept.play config before
  have hidle : d.state = .idle := by
    by_contra hne
    obtain ⟨c', hc', hne'⟩ := exists_play_of_kept (P := fun c => c.state ≠ .idle)
      (fun hstanding _ hchange hne hs => hne (idle_of_change hstanding hchange hs))
      (.act (.call id .closeWithCompletion) :: after) hb hd hne
    rw [← play_append, hc] at hc'
    cases hc'
    exact hne' hs
  have hrequested : d.connectRequested = true := by
    by_contra hr
    simp [Connection.closeWithCompletion, Connection.close, hidle, hr] at hok
  rw [play_append] at hc hrunning
  exact connectRequested_play _ (fun c hc => (hb c hc).1) hd hrequested hrunning hc

/-- The handle of an idle connection was dropped while the request to connect was in its queue. -/
theorem exists_drop {config : ServiceConfig} {moves : List Move} {id : String}
    (hc : (play { config } moves).find? id = some c)
    (hrunning : (play { config } moves).queues.stopped = false) (hs : c.state = .idle)
    (hheld : c.held = false) (hrequested : c.connectRequested = true) :
    ∃ before after d, moves = before ++ .act (.call id .drop) :: after ∧
      (play { config } before).find? id = some d ∧ d.held = true ∧ d.state = .idle ∧
      id ∈ (play { config } before).queues.connects := by
  obtain ⟨before, m, after, d, d', rfl, hd, -, hchange, hnot, hs', hheld', hrequested'⟩ :=
    exists_turn
      (P := fun c => c.state = .idle ∧ c.held = false ∧ c.connectRequested = true)
      (fun hcreate => by
        obtain ⟨_, _, rfl⟩ := Connection.create_eq hcreate
        exact fun h => Bool.noConfusion h.2.1) hc ⟨hs, hheld, hrequested⟩
  have hstanding := Connection.standing_kept.play config before d (List.mem_of_find?_eq_some hd)
  have hidle := idle_of_change hstanding hchange hs'
  rw [play_append] at hrunning
  have hvigilant := vigilant_play config before (running_of_play hrunning)
  have hid := id_of_find? hd
  subst hid
  cases hchange with
  | @call call held =>
    rcases (d.scope_perform (play { config } before).queues call).held with hsame | ⟨rfl, heq⟩
    · rw [hsame, held] at hheld'
      cases hheld'
    · rw [heq] at hrequested'
      exact ⟨before, after, d, rfl, hd, held, hidle,
        (hvigilant.watched d.id d hd).2.1.connects hidle hrequested' held⟩
  | @far call =>
    obtain ⟨_, _, hfar⟩ := d.farCall_eq call
    rw [hfar] at hheld' hrequested'
    exact absurd ⟨hidle, hheld', hrequested'⟩ hnot
  | takenUp =>
    obtain ⟨_, _, _, heq, _, rfl | ⟨_, _, rfl⟩⟩ := takenUp_cases (play { config } before) d
    · rw [heq] at hheld' hrequested'
      exact absurd ⟨hidle, hheld', hrequested'⟩ hnot
    · rw [heq] at hs'
      cases hs'
  | progress running progress =>
    exact absurd hidle (hstanding.begun_of_isDriven progress.isDriven)
  | unheld | other | cut | spared => exact absurd ⟨hidle, hheld', hrequested'⟩ hnot

end Bridge

/-- As long as the service runs and the clock reaches, whoever waits for the end of a connection is told the
outcome of its last event once that is delivered, and not before. All who wait have been told the same. They
are let go of without an outcome only where the handle was dropped before the loop took up the request to
connect. -/
theorem completions_agree (config : ServiceConfig) (before after : List Move) (id : String)
    (hdone : ((Bridge.play { config } before).act (.call id .closeWithCompletion)).1 = .done)
    (hrunning : (Bridge.play { config }
      (before ++ .act (.call id .closeWithCompletion) :: after)).queues.stopped = false) :
    let moves := before ++ .act (.call id .closeWithCompletion) :: after
    ∃ d c w, (Bridge.play { config } before).find? id = some d ∧
      (Bridge.play { config } moves).find? id = some c ∧ c.waits[d.waits.length]? = some w ∧
      ((Bridge.play { config } moves).ClockReaches c.config.profile →
        (∀ other ∈ c.waits, other = w) ∧
        (w = .resolved .failed ↔ ∃ reason, .connectFail reason ∈ c.events) ∧
        (w = .resolved .dropped ↔ .connectionDropped ∈ c.events) ∧
        (w = .resolved .closedGracefully ↔ .connectionClosedGracefully ∈ c.events) ∧
        (w = .abandoned ↔ c.state = .idle ∧ c.held = false) ∧
        (w = .abandoned → ∃ front back e, moves = front ++ .act (.call id .drop) :: back ∧
          (Bridge.play { config } front).find? id = some e ∧ e.held = true ∧ e.state = .idle ∧
          id ∈ (Bridge.play { config } front).queues.connects)) := by
  intro moves
  obtain ⟨d, hd, hheld, hanswer⟩ := Bridge.exists_of_done hdone
  have hok : (d.closeWithCompletion (Bridge.play { config } before).queues).1 = .ok () :=
    Answer.ofUnit_eq_done.mp hanswer
  obtain ⟨c, hc, w, hw, -⟩ := Bridge.exists_pledged hd hheld hok after
  refine ⟨d, c, w, hd, hc, hw, fun hreach => ?_⟩
  have hmem : w ∈ c.waits := List.mem_of_getElem? hw
  have hword := Bridge.wait_eq_word hc hrunning hreach hmem
  have hstanding := Connection.standing_kept.play config _ c (List.mem_of_find?_eq_some hc)
  rw [hrunning] at hstanding
  have hresolved : ∀ o, w = .resolved o ↔ ∃ e ∈ c.events, e.outcome? = some o := fun o => by
    rw [hword, Connection.word_eq_resolved_iff, hstanding.outcome_eq_some_iff]
  have habandoned : w = .abandoned ↔ c.state = .idle ∧ c.held = false := by
    rw [hword, Connection.word_eq_abandoned_iff hstanding]
  refine ⟨fun other hother => ?_, ?_, ?_, ?_, habandoned, fun hlost => ?_⟩
  · rw [hword]
    exact Bridge.wait_eq_word hc hrunning hreach hother
  · rw [hresolved]
    simp only [EventKind.outcome?_eq_failed]
    exact ⟨fun ⟨_, he, reason, heq⟩ => ⟨reason, heq ▸ he⟩, fun ⟨reason, he⟩ => ⟨_, he, reason, rfl⟩⟩
  · simp only [hresolved, EventKind.outcome?_eq_dropped, exists_eq_right]
  · simp only [hresolved, EventKind.outcome?_eq_closedGracefully, exists_eq_right]
  · obtain ⟨hs, hfree⟩ := habandoned.mp hlost
    exact Bridge.exists_drop hc hrunning hs hfree
      (Bridge.connectRequested_of_wait hc hrunning hs (List.ne_nil_of_mem hmem))

/-- The wire of a connection is opened. -/
def openMoves : List Move :=
  [.act (.create "a" { sessionId := "a", host := "far" } none), .act (.call "a" .connect), .loop,
    .wait 1, .errand 0 .dial]

/-- The close that is asked for is answered, and another one is asked for behind it. -/
def closedTwice : List Move :=
  [.loop, .errand 0 .turn, .errand 0 .arrival, .act (.call "a" .closeWithCompletion)]

/-- Both times the close of the connection is told. -/
theorem completions_agree_closedTwice :
    ∃ c, (Bridge.play { config := {} }
        (openMoves ++ .act (.call "a" .closeWithCompletion) :: closedTwice)).find? "a" = some c ∧
      c.waits.length = 2 ∧ ∀ w ∈ c.waits, w = .resolved .closedGracefully := by
  have hends : ∀ c ∈ (Bridge.play { config := {} }
      (openMoves ++ .act (.call "a" .closeWithCompletion) :: closedTwice)).roster,
      c.waits.length = 2 ∧ .connectionClosedGracefully ∈ c.events ∧ (Bridge.play { config := {} }
        (openMoves ++ .act (.call "a" .closeWithCompletion) :: closedTwice)).ClockReaches
          c.config.profile := by decide +kernel
  obtain ⟨_, c, w, _, hc, _, hagree⟩ :=
    completions_agree {} openMoves closedTwice "a" (by decide +kernel) (by decide +kernel)
  obtain ⟨hlength, hlast, hreach⟩ := hends c (List.mem_of_find?_eq_some hc)
  obtain ⟨hsame, -, -, hclosed, -⟩ := hagree hreach
  exact ⟨c, hc, hlength, fun other hother => (hsame other hother).trans (hclosed.mpr hlast)⟩

end VoiceBridge
