import VoiceBridge.Proofs.Run.Clock
import VoiceBridge.Proofs.Run.Recorded
import VoiceBridge.Proofs.Run.WakeUp

/-!
# Text exactly once and in order

`Ledger` compares the frames that calls were told are accepted with those that the far end received
from the outbox: until the driver is over, what was received and what still waits make up what was
accepted. What a driver takes out of the outbox and fails to send ends the connection.
-/

namespace VoiceBridge

namespace Connection

variable {c c' : Connection} {q : Requests}

/-- The frame, if its caller was told that it is accepted. -/
def told (f : OutboundFrame) : Except BridgeError Unit → List OutboundFrame
  | .ok () => [f]
  | .error _ => []

/-- The frames that a call puts into the outbox and is told so. -/
def accepted (c : Connection) (q : Requests) : Call → List OutboundFrame
  | .finish => told c.config.profile.finish.frame (c.finish q).1
  | .text s => told (.text s) (c.queueText s q).1
  | .audio chunks (some s) => told (.text s) ((c.writeChunks chunks).2.queueText s q).1
  | _ => []

/-- The frames from the outbox that the far end received. -/
def received (c : Connection) : List OutboundFrame := c.wire.sent.filter (·.isQueued)

/-! ### What calls put into the outbox -/

theorem requestWrite_ok (hs : q.stopped = false) : (c.requestWrite q).1 = .ok () := by
  unfold requestWrite
  split
  · rfl
  · rw [enqueue_of_running hs]

theorem outbox_finish (hs : c.state = .connected → q.stopped = false) :
    (c.finish q).2.1.outbox = c.outbox ++ told c.config.profile.finish.frame (c.finish q).1 := by
  unfold Connection.finish
  split
  · exact (List.append_nil _).symm
  · rename_i hstate
    rw [requestWrite_ok (hs (not_not.mp hstate)), requestWrite_eq]
    rfl

theorem outbox_queueText (s : String) (hs : c.state = .connected → q.stopped = false) :
    (c.queueText s q).2.1.outbox = c.outbox ++ told (.text s) (c.queueText s q).1 := by
  unfold queueText
  split <;> rename_i hstate
  · exact (List.append_nil _).symm
  · exact (List.append_nil _).symm
  · exact (List.append_nil _).symm
  · rfl
  · rfl
  · rw [requestWrite_ok (hs hstate), requestWrite_eq]
    rfl

theorem outbox_close (c : Connection) (q : Requests) : (c.close q).2.1.outbox = c.outbox := by
  obtain ⟨_, _, heq⟩ := close_effect c q
  rw [heq]

theorem outbox_releaseAudio (c : Connection) (q : Requests) :
    (c.releaseAudio q).1.outbox = c.outbox := by
  obtain ⟨_, heq⟩ := releaseAudio_effect c q
  rw [heq]

theorem outbox_stream (closeAfter : Option Nat) (frames : List Bytes) (c : Connection) (q : Requests)
    (r : StreamReport) : (c.stream q closeAfter r frames).2.1.outbox = c.outbox := by
  obtain ⟨_, _, _, _, _, _, heq, _⟩ := stream_effect closeAfter frames c q r
  rw [heq]

/-- A call adds to the outbox what it is told is accepted, as long as drivers are at work. -/
theorem outbox_perform (call : Call) (hs : c.state = .connected → q.stopped = false) :
    (c.perform q call).2.1.outbox = c.outbox ++ c.accepted q call := by
  cases call with
  | connect =>
    obtain ⟨_, heq⟩ := connect_effect c q
    simp [perform, Answer.ofCall, accepted, heq]
  | close => exact (outbox_close c q).trans (List.append_nil _).symm
  | closeWithCompletion =>
    change (c.closeWithCompletion q).2.1.outbox = c.outbox ++ []
    rw [List.append_nil]
    rcases closeWithCompletion_cases c q with ⟨_, hafter⟩ | ⟨_, hafter⟩ <;> rw [hafter] <;>
      exact outbox_close c q
  | finish => exact outbox_finish hs
  | text s => exact outbox_queueText s hs
  | audio chunks text =>
    obtain ⟨_, _, _, heq⟩ := writeChunks_effect chunks c
    cases text with
    | none =>
      refine (outbox_releaseAudio _ q).trans ?_
      rw [heq]
      exact (List.append_nil _).symm
    | some s =>
      have houtbox := outbox_queueText (c := (c.writeChunks chunks).2) (q := q) s
        (by rw [heq]; exact hs)
      refine ((outbox_releaseAudio _ _).trans houtbox).trans ?_
      have hsame : (c.writeChunks chunks).2.outbox = c.outbox := by rw [heq]
      rw [hsame]
      rfl
  | slot bytes commit => exact (outbox_releaseAudio _ q).trans (List.append_nil _).symm
  | stream settings pcm closeAfter =>
    exact (outbox_stream closeAfter _ c q {}).trans (List.append_nil _).symm
  | inspect => exact (List.append_nil _).symm
  | target => exact (List.append_nil _).symm
  | drop =>
    obtain ⟨_, heq⟩ := dropHandle_effect c
    change c.dropHandle.outbox = c.outbox ++ []
    rw [heq, List.append_nil]

/-- Nothing is accepted once the connection closes. -/
theorem accepted_of_closing (h : c.takesText = false) (call : Call) : c.accepted q call = [] := by
  have htext : ∀ (d : Connection) (s : String), d.state = c.state →
      told (.text s) (d.queueText s q).1 = [] := by
    intro d s hd
    unfold takesText at h
    unfold queueText
    split <;> rename_i hs
    · rfl
    · rfl
    · rfl
    all_goals simp [← hd, hs, ConnectionState.isTerminal] at h
  cases call with
  | finish =>
    have hstate : c.state ≠ .connected := fun hs => by
      simp [takesText, hs, ConnectionState.isTerminal] at h
    change told _ (c.finish q).1 = []
    unfold Connection.finish
    rw [if_pos hstate]
    rfl
  | text s => exact htext c s rfl
  | audio chunks text =>
    cases text with
    | none => rfl
    | some s =>
      obtain ⟨_, _, _, heq⟩ := writeChunks_effect chunks c
      exact htext _ s (by rw [heq])
  | _ => rfl

/-! ### The ledger of a connection -/

/-- What was accepted is what was received and, until the driver is over, what still waits. -/
structure Ledger (accepted : List OutboundFrame) (c : Connection) : Prop where
  begins : c.received <+: accepted
  balance : c.phase ≠ .over → c.received ++ c.outbox = accepted
  closed : .close ∈ c.wire.sent → c.received = accepted

variable {acc : List OutboundFrame}

/-- Nothing is sent and nothing is taken out of the outbox, unless the driver is over. -/
theorem Ledger.keep (h : Ledger acc c) (hsent : c'.wire.sent = c.wire.sent)
    (hover : c'.phase ≠ .over → c.phase ≠ .over ∧ c'.outbox = c.outbox) : Ledger acc c' := by
  have hreceived : c'.received = c.received := by rw [received, hsent, received]
  refine ⟨hreceived ▸ h.begins, fun hp => ?_, fun hclose => ?_⟩
  · rw [hreceived, (hover hp).2]
    exact h.balance (hover hp).1
  · rw [hreceived]
    exact h.closed (hsent ▸ hclose)

/-- A frame that is no text leaves when the outbox is empty or is no concern of it. -/
theorem Ledger.sendOther {f : OutboundFrame} (h : Ledger acc c) (hf : f.isQueued = false)
    (hover : c.phase ≠ .over) (hsent : c'.wire.sent = c.wire.sent ++ [f])
    (ho : c'.outbox = c.outbox) (hclose : f = .close → c.outbox = []) : Ledger acc c' := by
  have hreceived : c'.received = c.received := by simp [received, hsent, List.filter_append, hf]
  have hbalance := h.balance hover
  refine ⟨hreceived ▸ h.begins, fun _ => ?_, fun hmem => ?_⟩
  · rw [hreceived, ho]
    exact hbalance
  · rw [hreceived]
    by_cases hfc : f = .close
    · rw [hclose hfc, List.append_nil] at hbalance
      exact hbalance
    · rw [hsent] at hmem
      exact h.closed ((close_mem_append hfc).mp hmem)

/-- The oldest frame of the outbox is sent. -/
theorem Ledger.sendText {f : OutboundFrame} {rest : List OutboundFrame} (h : Ledger acc c)
    (hwired : c.Wired) (hover : c.phase ≠ .over) (hout : c.outbox = f :: rest)
    (hsent : c'.wire.sent = c.wire.sent ++ [f]) (ho : c'.outbox = rest) : Ledger acc c' := by
  have hf : f.isQueued = true := hwired.outbox f (by rw [hout]; exact List.mem_cons_self)
  have hreceived : c'.received = c.received ++ [f] := by
    simp [received, hsent, List.filter_append, hf]
  have hbalance : c'.received ++ c'.outbox = acc := by
    have hold := h.balance hover
    rw [hout] at hold
    rw [hreceived, ho, List.append_assoc]
    exact hold
  refine ⟨⟨c'.outbox, hbalance⟩, fun _ => hbalance, fun hmem => ?_⟩
  rw [hsent, close_mem_append (ne_close_of_isQueued hf)] at hmem
  have hnil := (hwired.closing hmem).1
  rw [hout] at hnil
  cases hnil

theorem Ledger.progress {ctx : LoopContext} (h : Ledger acc c) (hwired : c.Wired)
    (hp : Progress ctx c c') : Ledger acc c' := by
  cases hp with
  | refused => exact h.keep rfl fun hover => absurd rfl hover
  | opened log phase => exact h.keep rfl fun _ => ⟨by simp [phase], rfl⟩
  | spent phase => exact h.keep rfl fun _ => ⟨by simp [phase], rfl⟩
  | quiet log phase _ _ outbox => exact h.keep rfl fun _ => ⟨by simp [phase], outbox.symm⟩
  | sent log phase attempt =>
    have hover : c.phase ≠ .over := by simp [phase]
    cases attempt with
    | text _ _ _ outbox => exact h.sendText hwired hover outbox rfl rfl
    | close _ _ _ outbox => exact h.sendOther rfl hover rfl outbox.symm fun _ => outbox
    | audio _ _ _ outbox _ pending =>
      refine h.sendOther ?_ hover rfl outbox.symm (by simp)
      exact List.isEmpty_eq_false_iff.mpr (AudioBuffer.pending_ne_nil hwired.audio pending)
    | ping => exact h.sendOther rfl hover rfl rfl (by simp)
  | lost log phase attempt => exact h.keep (by cases attempt <;> rfl) fun hover => absurd rfl hover
  | discarded phase => exact h.keep rfl fun _ => ⟨by simp [phase], rfl⟩
  | taken log phase => exact h.keep rfl fun _ => ⟨by simp [phase], rfl⟩
  | heard phase => exact h.keep rfl fun _ => ⟨by simp [phase], rfl⟩
  | ended | expired | broken => exact h.keep rfl fun hover => absurd rfl hover

/-- A call is told of everything that it adds. -/
theorem Ledger.call (h : Ledger acc c) (hstanding : c.Standing q.stopped) (hwired : c.Wired)
    (call : Call) : Ledger (acc ++ c.accepted q call) (c.perform q call).2.1 := by
  have hframe := CallFrame.perform c q call
  have hreceived : (c.perform q call).2.1.received = c.received := by
    rw [received, hframe.wire, received]
  refine ⟨?_, fun hover => ?_, fun hclose => ?_⟩
  · rw [hreceived]
    exact h.begins.trans (List.prefix_append _ _)
  · rw [hframe.phase] at hover
    have hrunning : c.state = .connected → q.stopped = false := by
      intro hs
      cases hstanding with
      | connected running => exact running
      | cutLive phase => exact absurd phase hover
      | dropped phase => exact absurd phase hover
      | _ => simp_all
    rw [hreceived, outbox_perform call hrunning, ← List.append_assoc, h.balance hover]
  · rw [hframe.wire] at hclose
    have htakes : c.takesText = false := by
      rcases (hwired.closing hclose).2 with hs | hs <;> simp [takesText, hs, ConnectionState.isTerminal]
    rw [hreceived, accepted_of_closing htakes, List.append_nil]
    exact h.closed hclose

end Connection

namespace Bridge

/-- The frames that a move puts into the outbox of a name and whose caller is told so. -/
def accepts (id : String) (b : Bridge) : Move → List OutboundFrame
  | .act (.call name call) =>
    match b.find? id with
    | some c => if name = id ∧ c.held then c.accepted b.queues call else []
    | none => []
  | _ => []

theorem accepts_of_quiet {id : String} {b : Bridge} {m : Move}
    (h : ∀ name call, m ≠ .act (.call name call)) : b.accepts id m = [] := by
  unfold accepts
  split
  · exact absurd rfl (h _ _)
  · rfl

theorem ledger_change {acc : List OutboundFrame} {b : Bridge} {c c' : Connection} {m : Move}
    (hc : b.find? c.id = some c) (hstanding : c.Standing b.queues.stopped) (hwired : c.Wired)
    (h : c.Ledger acc) (hchange : Change b c m c') : c'.Ledger (acc ++ b.accepts c.id m) := by
  cases hchange with
  | call held =>
    rw [accepts, hc]
    dsimp only
    rw [if_pos ⟨rfl, held⟩]
    exact h.call hstanding hwired _
  | unheld held => simpa [accepts, hc, held] using h
  | other ne => simpa [accepts, hc, ne] using h
  | @far call =>
    obtain ⟨_, _, hfar⟩ := c.farCall_eq call
    rw [accepts_of_quiet (by simp), List.append_nil, hfar]
    exact h.keep rfl fun hover => ⟨hover, rfl⟩
  | takenUp running =>
    rw [accepts_of_quiet (by simp), List.append_nil]
    rw [running] at hstanding
    obtain ⟨d, _, _, heq, _, hcases⟩ := takenUp_cases b c
    rw [heq]
    rcases hcases with rfl | ⟨_, hidle, rfl⟩
    · exact h.keep rfl fun hover => ⟨hover, rfl⟩
    · exact h.keep rfl fun _ => ⟨by simp [(hstanding.of_idle hidle).1], rfl⟩
  | progress running progress =>
    rw [accepts_of_quiet (by simp), List.append_nil]
    exact h.progress hwired progress
  | cut =>
    rw [accepts_of_quiet (by simp), List.append_nil]
    refine h.keep rfl fun hover => ⟨fun hp => hover ?_, rfl⟩
    dsimp only
    rw [hp]
    split <;> rfl
  | spared quiet =>
    rw [accepts_of_quiet quiet, List.append_nil]
    exact h

theorem recorded_accepts (id : String) : Recorded id (accepts id) fun c acc => c.Ledger acc where
  unnamed {b m} hnone := by
    unfold accepts
    split
    · simp [hnone]
    · rfl
  create hcreate := by
    obtain ⟨_, _, rfl⟩ := Connection.create_eq hcreate
    exact ⟨List.prefix_rfl, fun _ => rfl, fun _ => rfl⟩
  change hc _ hstanding hwired hchange h := by
    have hid := id_of_find? hc
    subst hid
    exact ledger_change hc hstanding hwired h hchange

/-- The ledger of the connection of a name after a play. -/
theorem ledger_play {config : ServiceConfig} {moves : List Move} {id : String} {c : Connection}
    (hc : (play { config } moves).find? id = some c) :
    c.Ledger (record (accepts id) { config } moves) :=
  (recorded_accepts id).play config moves hc

end Bridge

/-- The far end receives text and finish signals exactly once and in the order in which they were
accepted. It has received all of them in a settled bridge on a connected connection, within the reach of the
clock, and once the close frame is sent. -/
theorem outbox_exactly_once (config : ServiceConfig) (moves : List Move) (id : String) (c : Connection)
    (hc : (Bridge.play { config } moves).find? id = some c) :
    let b := Bridge.play { config } moves
    let accepted := Bridge.record (Bridge.accepts id) { config } moves
    c.wire.sent.filter (·.isQueued) <+: accepted ∧
    (b.queues.stopped = false → b.Settled → b.ClockReaches c.config.profile → c.state = .connected →
      c.wire.sent.filter (·.isQueued) = accepted) ∧
    (.close ∈ c.wire.sent → c.wire.sent.filter (·.isQueued) = accepted) := by
  have hledger := Bridge.ledger_play hc
  have hmem := List.mem_of_find?_eq_some hc
  refine ⟨hledger.begins, fun hrunning hsettled hreach hs => ?_, hledger.closed⟩
  have hdriven := Bridge.isDriven_of_state hmem hrunning hreach (.inl hs)
  have hnil := ((hsettled.idle hrunning c hmem).work hs hdriven).1
  have hbalance := hledger.balance fun hover => by simp [Connection.isDriven, hover] at hdriven
  rw [hnil, List.append_nil] at hbalance
  exact hbalance

/-- Texts are queued before the request to connect, during the handshake and on the open connection,
which then closes. -/
def texts : List Move :=
  [.act (.create "a" { sessionId := "a", host := "far", audioCapacity := 8, headerReserve := 2 } none),
    .act (.call "a" (.text "one")), .act (.call "a" .connect), .loop, .act (.call "a" (.text "two")),
    .wait 1, .errand 0 .dial, .errand 0 .turn, .act (.call "a" .finish), .act (.call "a" .close),
    .errand 0 .turn, .loop, .errand 0 .turn, .errand 0 .turn]

theorem outbox_exactly_once_texts :
    ∃ c, (Bridge.play { config := {} } texts).find? "a" = some c ∧ .close ∈ c.wire.sent ∧
      c.wire.sent.filter (·.isQueued) = [.text "one", .text "two", .text "stop"] := by
  have hsome : ((Bridge.play { config := {} } texts).find? "a").isSome = true := by decide +kernel
  obtain ⟨c, hc⟩ := Option.isSome_iff_exists.mp hsome
  have hclose : ∀ c ∈ (Bridge.play { config := {} } texts).roster, .close ∈ c.wire.sent := by
    decide +kernel
  have haccepted : Bridge.record (Bridge.accepts "a") { config := {} } texts =
      [.text "one", .text "two", .text "stop"] := by decide +kernel
  have hsent := hclose c (List.mem_of_find?_eq_some hc)
  exact ⟨c, hc, hsent, ((outbox_exactly_once {} texts "a" c hc).2.2 hsent).trans haccepted⟩

end VoiceBridge
