import VoiceBridge.Proofs.Run.DeferredClose
import VoiceBridge.Proofs.Run.Flush
import VoiceBridge.Proofs.Run.PickUp
import VoiceBridge.Proofs.Run.Streaming

/-!
# Closing again

Once a close has been accepted, it is noted until the wire is open, or under way, or the end has come
(`CloseTaken`). Nothing that happens as long as the service runs takes it back. To close once more is then
accepted and changes nothing, neither on the connection nor in the work queues: the bridge is the same behind
it, and so is all that comes later.
-/

namespace VoiceBridge

/-- The call asks for the close, and this is accepted. The owner of a stream asks behind one of its frames. -/
def Call.hasClosed : Call → Answer → Bool
  | .close, .done | .closeWithCompletion, .done => true
  | .stream _ _ (some k), .streamed report => decide (0 < k ∧ report.frames = k)
  | _, _ => false

theorem Call.answer_of_hasClosed {call : Call} {answer : Answer} (h : call.hasClosed answer = true) :
    answer = .done ∨ ∃ report, answer = .streamed report := by
  unfold hasClosed at h
  split at h
  · exact .inl rfl
  · exact .inl rfl
  · exact .inr ⟨_, rfl⟩
  · cases h

namespace Connection

variable {c c' : Connection} {q : Requests} {ctx : LoopContext}

/-- A close has been accepted, and what is left of it is done without the caller. -/
structure CloseTaken (c : Connection) : Prop where
  shut : c.state ≠ .connected
  noted : c.IsEarly → c.closeAfterConnect = true
  requested : c.state = .idle → c.connectRequested = true

theorem CloseTaken.congr (h : c.CloseTaken) (hs : c'.state = c.state)
    (hnoted : c'.closeAfterConnect = c.closeAfterConnect)
    (hrequested : c'.connectRequested = c.connectRequested) : c'.CloseTaken where
  shut := hs ▸ h.shut
  noted hearly := hnoted.trans (h.noted (by rwa [IsEarly, hs] at hearly))
  requested hidle := hrequested.trans (h.requested (hs ▸ hidle))

/-- To close once more changes nothing. -/
theorem CloseTaken.close_eq (h : c.CloseTaken) (q : Requests) : c.close q = (.ok (), c, q) := by
  have hsame : c.IsEarly → { c with closeAfterConnect := true } = c := by
    intro hearly
    rw [← h.noted hearly]
  unfold close
  split
  · rename_i hs
    rw [if_pos (h.requested hs), hsame (.inl hs)]
  · rename_i hs
    rw [hsame (.inr hs)]
  · rename_i hs
    exact absurd hs h.shut
  all_goals rfl

/-- A connection whose wire has been opened, or will not be, is closing for good. -/
theorem CloseTaken.of_late (hearly : ¬c.IsEarly) (hs : c.state ≠ .connected) : c.CloseTaken :=
  ⟨hs, fun h => absurd h hearly, fun hidle => absurd (.inl hidle) hearly⟩

theorem CloseTaken.of_connected (hs : c.state = .connected) : (c.close q).2.1.CloseTaken := by
  rw [close, hs]
  dsimp only
  rw [beginDisconnect_eq hs]
  exact .of_late (by simp [IsEarly]) (by simp)

theorem CloseTaken.of_close (hok : (c.close q).1 = .ok ()) : (c.close q).2.1.CloseTaken := by
  cases hs : c.state with
  | idle =>
    rw [close, hs] at hok ⊢
    dsimp only at hok ⊢
    split at hok
    · rename_i hrequested
      rw [if_pos hrequested]
      exact ⟨by simp, fun _ => rfl, fun _ => hrequested⟩
    · cases hok
  | connecting =>
    rw [close, hs]
    exact ⟨by simp, fun _ => rfl, fun hidle => by cases hidle⟩
  | connected => exact .of_connected hs
  | disconnecting | disconnected | failed =>
    rw [close, hs]
    exact .of_late (by simp [IsEarly, hs]) (by simp [hs])

/-- The owner of a stream has been called behind frame `k`. -/
theorem CloseTaken.of_stream {k : Nat} (frames : List Bytes) (r : StreamReport) (hr : r.frames < k)
    (hk : (c.stream q (some k) r frames).1.frames = k) :
    (c.stream q (some k) r frames).2.1.CloseTaken := by
  induction frames generalizing c q r with
  | nil => exact absurd hk hr.ne
  | cons frame rest ih =>
    unfold stream at hk ⊢
    split at hk
    · exact absurd hk hr.ne
    · rename_i hopen
      have hs : c.state = .connected := by simpa [isConnected] using hopen
      have hcount : (c.streamFrame q r frame).1.frames = r.frames + 1 := rfl
      have hstate := (streamFrame_eq c q r frame).2.2.trans hs
      rw [if_neg hopen]
      generalize c.streamFrame q r frame = written at hk hcount hstate ⊢
      obtain ⟨r', d, p⟩ := written
      dsimp only at hk hcount hstate ⊢
      by_cases hlast : some k = some r'.frames
      · have hclosed : (d.close p).2.1.CloseTaken := .of_connected hstate
        obtain ⟨log, hrest⟩ :=
          stream_of_not_connected (q := (d.close p).2.2) hclosed.shut (some k) r' rest
        rw [if_pos hlast, hrest]
        exact hclosed.congr rfl rfl rfl
      · have hlater : r'.frames < k := by
          have hne : k ≠ r'.frames := fun heq => hlast (congrArg some heq)
          omega
        rw [if_neg hlast] at hk ⊢
        exact ih r' hlater hk

theorem CloseTaken.of_hasClosed {call : Call} (h : call.hasClosed (c.perform q call).1 = true) :
    (c.perform q call).2.1.CloseTaken := by
  generalize hanswer : (c.perform q call).1 = answer at h
  unfold Call.hasClosed at h
  split at h
  · exact .of_close (Answer.ofUnit_eq_done.mp hanswer)
  · have hok : (c.closeWithCompletion q).1 = .ok () := Answer.ofUnit_eq_done.mp hanswer
    change (c.closeWithCompletion q).2.1.CloseTaken
    rcases closeWithCompletion_cases c q with ⟨haccepted, hafter⟩ | ⟨⟨e, herror⟩, hafter⟩
    · rw [hafter]
      exact (CloseTaken.of_close haccepted).congr rfl rfl rfl
    · rw [hafter, herror] at hok
      cases hok
  · rename_i settings pcm k report
    obtain ⟨hk, hframes⟩ := of_decide_eq_true h
    have hreport : (c.stream q (some k) {} (settings.cut pcm)).1 = report := Answer.streamed.inj hanswer
    exact .of_stream (settings.cut pcm) {} hk (hreport ▸ hframes)
  · cases h

theorem CloseTaken.perform (h : c.CloseTaken) (hrunning : q.stopped = false) (call : Call) :
    (c.perform q call).2.1.CloseTaken := by
  have hs : (c.perform q call).2.1.state = c.state :=
    (CallFrame.perform c q call).state.resolve_right fun hs => h.shut hs.1
  refine ⟨hs ▸ h.shut, fun hearly => ?_, fun hidle => ?_⟩
  · exact closeAfterConnect_perform call (h.noted (by rwa [IsEarly, hs] at hearly))
  · exact connectRequested_perform call hrunning (h.requested (hs ▸ hidle))

theorem CloseTaken.progress (h : c.CloseTaken) (hstanding : c.Standing false) (hp : Progress ctx c c') :
    c'.CloseTaken := by
  refine ⟨fun hs => ?_, fun hearly => absurd hearly (hp.not_isEarly hstanding),
    fun hidle => absurd (.inl hidle) (hp.not_isEarly hstanding)⟩
  have hfinal : ∀ {e : Ending} {final : ConnectionState} {last : EventKind},
      e.verdict? c.graceful c.state = some (final, last) → final ≠ .connected := by
    intro e final last hv
    rcases Ending.verdict_cases hv with ⟨rfl, -⟩ | ⟨rfl | rfl, -⟩ <;> simp
  cases hp with
  | refused => cases hs
  | opened log phase =>
    have hnoted := h.noted (.inr (hstanding.state_of_dialling phase))
    simp [hnoted] at hs
  | sent log phase attempt => cases attempt <;> exact h.shut hs
  | lost log phase attempt fault verdict => exact hfinal verdict hs
  | ended log phase inbound ending verdict => exact hfinal verdict hs
  | expired log phase cause verdict => exact hfinal verdict hs
  | _ => exact h.shut hs

end Connection

namespace Bridge

variable {b : Bridge} {c c' : Connection}

/-- As long as the service runs nothing takes back a close. -/
theorem closeTaken_change {m : Move} (h : c.CloseTaken) (hrunning : b.queues.stopped = false)
    (hstanding : c.Standing b.queues.stopped) (hchange : Change b c m c') : c'.CloseTaken := by
  rw [hrunning] at hstanding
  cases hchange with
  | @call call => exact h.perform hrunning call
  | @far call =>
    obtain ⟨_, _, hfar⟩ := c.farCall_eq call
    rw [hfar]
    exact h.congr rfl rfl rfl
  | takenUp =>
    obtain ⟨_, _, _, heq, _, rfl | ⟨_, hidle, rfl⟩⟩ := takenUp_cases b c
    · rw [heq]
      exact h.congr rfl rfl rfl
    · rw [heq]
      exact ⟨by simp [dialled], fun _ => h.noted (.inl hidle), fun hs => by cases hs⟩
  | progress _ progress => exact h.progress hstanding progress
  | cut => exact h.congr rfl rfl rfl
  | unheld | other | spared => exact h

theorem closeTaken_play {id : String} (moves : List Move)
    (hb : ∀ c ∈ b.roster, c.Standing b.queues.stopped ∧ c.Wired) (hc : b.find? id = some c)
    (h : c.CloseTaken) (hrunning : (b.play moves).queues.stopped = false) :
    ∃ c', (b.play moves).find? id = some c' ∧ c'.CloseTaken := by
  obtain ⟨c', hc', hkept⟩ := exists_play_along
    (P := fun b c => b.queues.stopped = false → c.CloseTaken)
    (fun _ _ _ hstanding _ hchange h hrunning =>
      closeTaken_change (h (running_of_move hrunning)) (running_of_move hrunning) hstanding hchange)
    moves (along_true moves b) hb hc fun _ => h
  exact ⟨c', hc', hkept hrunning⟩

/-- To close once more is accepted from whoever holds the handle, and leaves the bridge as it is. -/
theorem act_close_of_closeTaken {id : String} (hc : b.find? id = some c) (h : c.CloseTaken) :
    b.act (.call id .close) = (if c.held then .done else .dropped, b) := by
  unfold act
  simp only [hc]
  cases hheld : c.held with
  | false => rfl
  | true =>
    have hclose : c.perform b.queues .close = (.done, c, b.queues) :=
      congrArg Answer.ofCall (h.close_eq b.queues)
    simp only [Bool.not_true, Bool.false_eq_true, if_false, if_true, hclose, put_self hc]

/-- An accepted close has reached its connection. -/
theorem exists_closeTaken {id : String} {first : Call}
    (h : first.hasClosed (b.act (.call id first)).1 = true) :
    ∃ c, (b.move (.act (.call id first))).find? id = some c ∧ c.CloseTaken := by
  have hanswer := Call.answer_of_hasClosed h
  cases hc : b.find? id with
  | none => simp [act, hc] at hanswer
  | some c =>
    cases hheld : c.held with
    | false => simp [act, hc, hheld] at hanswer
    | true =>
      rw [act_call_answer hc hheld] at h
      exact ⟨_, find?_call_held hc hheld first, .of_hasClosed h⟩

end Bridge

/-- Closing twice is closing once. Once a close has been accepted, be it by `close`, by
`closeWithCompletion` or within a stream, to close again at any later point of the run, as long as the
service runs, is accepted and changes nothing: with or without that call the bridge is the same at every
later moment, with all connections, and all other calls are answered the same. So it is in a scenario. -/
theorem closing_again_is_unseen (config : ServiceConfig) (before middle : List Move) (id : String)
    (first : Call)
    (hclosed : first.hasClosed ((Bridge.play { config } before).act (.call id first)).1 = true)
    (hrunning : (Bridge.play { config }
      (before ++ .act (.call id first) :: middle)).queues.stopped = false) :
    let front := before ++ .act (.call id first) :: middle
    let again := Action.call id .close
    let b := Bridge.play { config } front
    ∃ c, b.find? id = some c ∧ b.act again = (if c.held then .done else .dropped, b) ∧
      (∀ later,
        Bridge.play { config } (front ++ .act again :: later) =
          Bridge.play { config } (front ++ later) ∧
        Bridge.record Bridge.answered { config } (front ++ .act again :: later) =
          Bridge.record Bridge.answered { config } front ++
            (b.act again).1 :: b.record Bridge.answered later ∧
        Bridge.record Bridge.answered { config } (front ++ later) =
          Bridge.record Bridge.answered { config } front ++ b.record Bridge.answered later) ∧
      ∀ actions steps,
        let alone := b.run (.acts actions :: steps)
        b.run (.acts (again :: actions) :: steps) = (alone.1.modifyHead ((b.act again).1 :: ·), alone.2) := by
  intro front again b
  have hfront : b = ((Bridge.play { config } before).move
      (.act (.call id first))).play middle := Bridge.play_split _ before _ middle
  have hb := Bridge.wired_play config (before ++ [.act (.call id first)])
  rw [Bridge.play_concat] at hb
  obtain ⟨d, hd, htaken⟩ := Bridge.exists_closeTaken hclosed
  obtain ⟨c, hc, hkept⟩ := Bridge.closeTaken_play middle hb hd htaken (hfront ▸ hrunning)
  rw [← hfront] at hc
  have hagain := Bridge.act_close_of_closeTaken hc hkept
  have hsame : (b.act again).2 = b := congrArg Prod.snd hagain
  have hmove : b.move (.act again) = b := hsame
  refine ⟨c, hc, hagain, fun later => ⟨?_, ?_, ?_⟩, fun actions steps => ?_⟩
  · rw [Bridge.play_split _ front, Bridge.play_append _ front later]
    exact congrArg (Bridge.play · later) hmove
  · rw [Bridge.record_append, Bridge.record]
    exact congrArg (fun b' => _ ++ (b.act again).1 :: Bridge.record Bridge.answered b' later) hmove
  · exact Bridge.record_append Bridge.answered { config } front later
  · have hstep : b.step (.acts (again :: actions)) =
        ((b.act again).1 :: (b.step (.acts actions)).1, (b.step (.acts actions)).2) :=
      congrArg (fun b' : Bridge => ((b.act again).1 :: (b'.actAll actions).1, (b'.actAll actions).2.settle))
        hsame
    unfold Bridge.run
    rw [hstep]
    rfl

/-- A connection is made and asked to connect. -/
def connectAskedFor : List Move :=
  [.act (.create "a" { sessionId := "a", host := "far" } none),
    .act (.call "a" .connect)]

/-- The wire is opened, and the close takes effect and is answered. -/
def openedToClose : List Move :=
  [.wait 1, .errand 0 .dial, .errand 0 .turn, .errand 0 .arrival]

/-- Closed before and behind the pick-up of its request, the connection sends one close frame. -/
theorem closing_again_is_unseen_opening :
    let front := connectAskedFor ++ .act (.call "a" .closeWithCompletion) :: [.loop]
    let again := Action.call "a" .close
    ((Bridge.play { config := {} } front).act again).1 = .done ∧
      ∀ d ∈ (Bridge.play { config := {} } (front ++ .act again :: openedToClose)).roster,
        d.wire.sent = [.close] ∧ d.waits = [.resolved .closedGracefully] := by
  intro front again
  have hheld : ((Bridge.play { config := {} } front).find? "a").any (fun c => c.held) = true := by
    decide +kernel
  have honce : ∀ d ∈ (Bridge.play { config := {} } (front ++ openedToClose)).roster,
      d.wire.sent = [.close] ∧ d.waits = [.resolved .closedGracefully] := by decide +kernel
  obtain ⟨c, hc, hagain, hlater, -⟩ :=
    closing_again_is_unseen {} connectAskedFor [.loop] "a" .closeWithCompletion
      (by decide +kernel) (by decide +kernel)
  obtain ⟨d, hd, hheld⟩ := (Option.any_eq_true _ _).mp hheld
  rw [hc] at hd
  cases hd
  rw [hheld] at hagain
  refine ⟨congrArg Prod.fst hagain, ?_⟩
  rw [(hlater openedToClose).1]
  exact honce

end VoiceBridge
