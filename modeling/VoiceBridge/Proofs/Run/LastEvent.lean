import VoiceBridge.Proofs.Run.Clock

/-!
# One terminal event

What a connection delivers begins with the answer to its request to connect and ends with at most one
terminal event, and its state tells the same story, in every reachable state of the bridge
(`one_terminal_event`). A driver that ends by itself has announced the end, as long as the clock reaches:
one that cannot reckon its deadlines is gone without a word.
-/

namespace VoiceBridge

/-- Every connection delivers the beginning of a list that has its only terminal event at its end, and its
state agrees with what was delivered. As long as the service runs and the clock reaches, no driver is or
will be gone without the terminal event, whatever it sees to next: the moves between states that its exits
are to make can always be made. -/
theorem one_terminal_event (config : ServiceConfig) (moves : List Move) :
    ∀ c ∈ (Bridge.play { config } moves).roster,
      (∃ whole, Delivery whole ∧ c.events <+: whole) ∧
      (∀ before e after, c.events = before ++ e :: after → e.isTerminal = true → after = []) ∧
      ((∃ reason, .connectFail reason ∈ c.events) ↔
        c.state = .failed ∧ .connectSuccess ∉ c.events) ∧
      (.connectionClosedGracefully ∈ c.events → c.state = .disconnected) ∧
      (.connectionDropped ∈ c.events → c.state = .disconnected ∨ c.state = .failed) ∧
      ((∀ e ∈ c.events, e.isTerminal = false) → c.state.isTerminal = false) ∧
      ((Bridge.play { config } moves).queues.stopped = false →
        (Bridge.play { config } moves).ClockReaches c.config.profile →
        (c.phase = .over → c.events.countP (·.isTerminal) = 1) ∧
        ∀ e c', c.seeTo? (Bridge.play { config } moves).context e = some c' → c'.phase = .over →
          c'.events.countP (·.isTerminal) = 1) ∧
      (∀ since delay, c.phase = .dialling since delay →
        (c.moved .connecting .connected).isOk = true ∧ (c.moved .connecting .failed).isOk = true) ∧
      ∀ s, c.phase = .live s → ∀ e : Ending, ∃ final last,
        e.verdict? c.graceful c.state = some (final, last) ∧ last.isTerminal = true ∧
          (c.moved c.state final).isOk = true := by
  intro c hc
  have hstanding := Connection.standing_kept.play config moves c hc
  have hstory := hstanding.story
  obtain ⟨whole, hwhole, hevents⟩ := hstory.delivery
  refine ⟨⟨whole, hwhole, hevents⟩, ?_, hstory.connectFail_iff, ?_, ?_, ?_, ?_, ?_, ?_⟩
  · intro before e after heq he
    exact hwhole.nothing_after (heq ▸ hevents) he
  · intro he
    rcases hstory.state_of_mem he rfl (by simp) with ⟨h, _⟩ | ⟨_, hs⟩
    · cases h
    · exact hs
  · intro he
    rcases hstory.state_of_mem he rfl (by simp) with ⟨_, hs⟩ | ⟨h, _⟩
    · exact hs
    · cases h
  · intro hnone
    have hzero : c.events.countP (·.isTerminal) = 0 :=
      List.countP_eq_zero.mpr fun e he => by simp [hnone e he]
    rw [hstory.countP_eq] at hzero
    cases hs : c.state.isTerminal with
    | true => simp [hs] at hzero
    | false => rfl
  · intro hrunning hreach
    rw [hrunning] at hstanding
    refine ⟨fun hover => hstanding.countP_of_over hover (Bridge.not_cutOff hc hrunning hreach), ?_⟩
    intro e c' hsee hover
    have hafter := hstanding.progress (Connection.progress_of_seeTo? hstanding hsee)
    exact hafter.countP_of_over hover (Bridge.not_cutOff_of_seeTo? hc hreach hsee)
  · intro since delay hp
    have hs := hstanding.state_of_dialling hp
    rw [Connection.moved_eq hs rfl, Connection.moved_eq hs rfl]
    exact ⟨rfl, rfl⟩
  · intro s hp e
    obtain ⟨final, last, o, hv, hm, ho⟩ := e.exists_verdict c.graceful (hstanding.state_of_live hp)
    refine ⟨final, last, hv, by rw [EventKind.isTerminal, ho]; rfl, ?_⟩
    rw [Connection.moved_eq rfl hm]
    rfl

/-- A caller connects and closes again. -/
def closingMoves : List Move :=
  [.act (.create "a" { sessionId := "a", host := "far", audioCapacity := 8, headerReserve := 2 } none),
    .act (.call "a" .connect), .loop, .errand 0 .dial, .act (.call "a" .close), .loop,
    .errand 0 .turn, .errand 0 .arrival]

theorem one_terminal_event_closing :
    ∃ c ∈ (Bridge.play { config := {} } closingMoves).roster,
      c.events = [.connectSuccess, .connectionClosedGracefully] ∧ c.state = .disconnected ∧
        c.events.countP (·.isTerminal) = 1 := by
  have hrunning : (Bridge.play { config := {} } closingMoves).queues.stopped = false := by decide +kernel
  obtain ⟨c, hc, hevents, hover, hreach⟩ : ∃ c ∈ (Bridge.play { config := {} } closingMoves).roster,
      c.events = [.connectSuccess, .connectionClosedGracefully] ∧ c.phase = .over ∧
        (Bridge.play { config := {} } closingMoves).ClockReaches c.config.profile := by decide +kernel
  obtain ⟨-, -, -, hclosed, -, -, hended, -⟩ := one_terminal_event {} closingMoves c hc
  exact ⟨c, hc, hevents, hclosed (by simp [hevents]), (hended hrunning hreach).1 hover⟩

end VoiceBridge
