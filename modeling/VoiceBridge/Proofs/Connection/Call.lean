import VoiceBridge.Bridge.Scenario
import Mathlib.Logic.Basic

/-!
# What a call can do

Every call is made of a few elementary operations: to connect, to close, to wait for the end, to
finish, to queue a text, to let go of the handle and, while the buffer is held, to write a chunk or to
fill a slot. `KeptByCalls P W` says that each of them keeps `P` between calls and the weaker `W` while
the buffer is held, and that to release the buffer restores `P`. Then every call keeps `P`.

The first use is `CallFrame`: a call never touches the driver, the wire or what was delivered, and the
only move between states it can make is the one from connected to disconnecting. The second is
`Asked`: a call leaves requests in no name but its own. `CallScope` lists what only some of the calls
change, so that whoever finds it changed knows which call was made.
-/

namespace VoiceBridge

theorem Answer.ofUnit_eq_done {r : Except BridgeError Unit} : ofUnit r = .done ↔ r = .ok () := by
  cases r <;> simp [ofUnit]

/-- The calls that can close the connection. A stream may be told to do so behind one of its frames. -/
def Call.asksToClose : Call → Bool
  | .close | .closeWithCompletion | .stream _ _ (some _) => true
  | _ => false

namespace Connection

/-- The elementary operations keep `P`, or `W` while the buffer is held. -/
structure KeptByCalls (P W : Connection → Requests → Prop) : Prop where
  connect : ∀ {c q}, P c q → P (c.connect q).2.1 (c.connect q).2.2
  close : ∀ {c q}, P c q → P (c.close q).2.1 (c.close q).2.2
  subscribe : ∀ {c q}, P c q → P c.subscribed q
  finish : ∀ {c q}, P c q → P (c.finish q).2.1 (c.finish q).2.2
  queueText : ∀ {c q} (s : String), P c q → P (c.queueText s q).2.1 (c.queueText s q).2.2
  warn : ∀ {c q} (text : String), P c q → P (c.warned text) q
  drop : ∀ {c q}, P c q → P c.dropHandle q
  hold : ∀ {c q}, P c q → W c q
  write : ∀ {c q} (chunk : Bytes), W c q → W (c.writeAudio chunk).2 q
  commit : ∀ {c q} (bytes : Bytes) (count : Option Nat), W c q → W (c.commitSlot bytes count).2 q
  queueHeld : ∀ {c q} (s : String), W c q → W (c.queueText s q).2.1 (c.queueText s q).2.2
  release : ∀ {c q}, W c q → P (c.releaseAudio q).1 (c.releaseAudio q).2

namespace KeptByCalls

variable {P W : Connection → Requests → Prop}

theorem closeWithCompletion (h : KeptByCalls P W) {c : Connection} {q : Requests} (hp : P c q) :
    P (c.closeWithCompletion q).2.1 (c.closeWithCompletion q).2.2 := by
  have hclose := h.close hp
  unfold Connection.closeWithCompletion
  split
  · rename_i c' q' heq
    rw [heq] at hclose
    exact h.subscribe hclose
  · exact hclose

theorem writeChunks (h : KeptByCalls P W) {q : Requests} :
    ∀ (chunks : List Bytes) {c : Connection}, W c q → W (c.writeChunks chunks).2 q
  | [], _, hw => hw
  | chunk :: rest, _, hw => h.writeChunks rest (h.write chunk hw)

theorem stream (h : KeptByCalls P W) (closeAfter : Option Nat) :
    ∀ (frames : List Bytes) {c : Connection} {q : Requests} (r : StreamReport), P c q →
      P (c.stream q closeAfter r frames).2.1 (c.stream q closeAfter r frames).2.2
  | [], _, _, _, hp => hp
  | frame :: rest, c, q, r, hp => by
    unfold Connection.stream
    split
    · exact h.warn _ hp
    · have hframe : P (c.streamFrame q r frame).2.1 (c.streamFrame q r frame).2.2 :=
        h.release (h.write frame (h.hold hp))
      dsimp only
      split
      · exact h.stream closeAfter rest _ (h.close hframe)
      · exact h.stream closeAfter rest _ hframe

/-- What the elementary operations keep is kept by every call. -/
theorem perform (h : KeptByCalls P W) (call : Call) {c : Connection} {q : Requests} (hp : P c q) :
    P (c.perform q call).2.1 (c.perform q call).2.2 := by
  cases call with
  | connect => exact h.connect hp
  | close => exact h.close hp
  | closeWithCompletion => exact h.closeWithCompletion hp
  | finish => exact h.finish hp
  | text s => exact h.queueText s hp
  | audio chunks text =>
    have hwritten := h.writeChunks chunks (h.hold hp)
    cases text with
    | none => exact h.release hwritten
    | some s => exact h.release (h.queueHeld s hwritten)
  | slot bytes commit => exact h.release (h.commit bytes commit (h.hold hp))
  | stream settings pcm closeAfter => exact h.stream closeAfter _ _ hp
  | inspect => exact hp
  | target => exact hp
  | drop => exact h.drop hp

end KeptByCalls

theorem requestWrite_eq (c : Connection) (q : Requests) :
    (c.requestWrite q).2.1 = { c with writeQueued := c.writeQueued || !q.stopped } := by
  unfold requestWrite WorkQueues.enqueue
  cases c with | mk =>
  dsimp only
  split
  · rename_i h
    rw [h, Bool.true_or]
  · rename_i h
    rw [Bool.not_eq_true] at h
    cases hs : q.stopped <;> simp [h]

/-! ### The fields that the operations change -/

theorem connect_effect (c : Connection) (q : Requests) :
    ∃ connectRequested, (c.connect q).2.1 = { c with connectRequested } := by
  unfold Connection.connect
  split
  · exact ⟨c.connectRequested, rfl⟩
  · split <;> exact ⟨_, rfl⟩

theorem close_effect (c : Connection) (q : Requests) :
    ∃ state closeAfterConnect, (c.close q).2.1 = { c with state, closeAfterConnect } := by
  unfold Connection.close beginDisconnect moved
  split
  · split <;> exact ⟨c.state, _, rfl⟩
  · exact ⟨c.state, _, rfl⟩
  · cases c.state.transition .connected .disconnecting <;> exact ⟨_, c.closeAfterConnect, rfl⟩
  all_goals exact ⟨c.state, c.closeAfterConnect, rfl⟩

theorem finish_effect (c : Connection) (q : Requests) :
    c.state ≠ .connected ∧ (c.finish q).2.1 = c ∨
      c.state = .connected ∧ ∃ writeQueued, (c.finish q).2.1 = { c with
        graceful := true, outbox := c.outbox ++ [c.config.profile.finish.frame], writeQueued } := by
  unfold Connection.finish
  split
  · rename_i hs
    exact .inl ⟨hs, rfl⟩
  · rename_i hs
    rw [requestWrite_eq]
    exact .inr ⟨not_not.mp hs, _, rfl⟩

/-- A connection whose close has begun takes no text. -/
def takesText (c : Connection) : Bool := !(c.state == .disconnecting || c.state.isTerminal)

theorem queueText_effect (c : Connection) (s : String) (q : Requests) :
    c.takesText = false ∧ (c.queueText s q).2.1 = c ∨
      c.takesText = true ∧ ∃ writeQueued, (c.queueText s q).2.1 = { c with
        outbox := c.outbox ++ [.text s], writeQueued } := by
  unfold Connection.queueText takesText
  split <;> rename_i hs <;> rw [hs]
  · exact .inl ⟨rfl, rfl⟩
  · exact .inl ⟨rfl, rfl⟩
  · exact .inl ⟨rfl, rfl⟩
  · exact .inr ⟨rfl, c.writeQueued, rfl⟩
  · exact .inr ⟨rfl, c.writeQueued, rfl⟩
  · rw [requestWrite_eq]
    exact .inr ⟨rfl, _, rfl⟩

theorem writeAudio_effect (c : Connection) (chunk : Bytes) :
    ∃ overrunNotice log, (c.writeAudio chunk).2 = { c with
      audio := (c.audio.write chunk).2, overrunNotice, log } := by
  unfold Connection.writeAudio
  dsimp only
  split
  · exact ⟨_, _, rfl⟩
  · exact ⟨c.overrunNotice, c.log, rfl⟩

theorem writeChunks_effect (chunks : List Bytes) (c : Connection) :
    ∃ audio overrunNotice log,
      (c.writeChunks chunks).2 = { c with audio, overrunNotice, log } := by
  induction chunks generalizing c with
  | nil => exact ⟨c.audio, c.overrunNotice, c.log, rfl⟩
  | cons chunk rest ih =>
    obtain ⟨notice, log, heq⟩ := writeAudio_effect c chunk
    obtain ⟨audio, notice', log', hrest⟩ := ih (c.writeAudio chunk).2
    refine ⟨audio, notice', log', ?_⟩
    change ((c.writeAudio chunk).2.writeChunks rest).2 = _
    rw [hrest, heq]

theorem releaseAudio_effect (c : Connection) (q : Requests) :
    ∃ writeQueued, (c.releaseAudio q).1 = { c with writeQueued } := by
  unfold Connection.releaseAudio
  split
  · exact ⟨_, requestWrite_eq c q⟩
  · exact ⟨c.writeQueued, rfl⟩

theorem dropHandle_effect (c : Connection) :
    ∃ waits, c.dropHandle = { c with held := false, waits } := by
  unfold Connection.dropHandle
  dsimp only
  split <;> exact ⟨_, rfl⟩

/-- A close that is accepted begins a wait, one that is refused does not. -/
theorem closeWithCompletion_cases (c : Connection) (q : Requests) :
    (c.close q).1 = .ok () ∧
        c.closeWithCompletion q = (.ok (), (c.close q).2.1.subscribed, (c.close q).2.2) ∨
      (∃ e, (c.close q).1 = .error e) ∧ c.closeWithCompletion q = c.close q := by
  unfold closeWithCompletion
  obtain ⟨r, c', q'⟩ := c.close q
  cases r with
  | ok => exact .inl ⟨rfl, rfl⟩
  | error e => exact .inr ⟨⟨e, rfl⟩, rfl⟩

/-- A stream changes the state only if it is told to close. -/
theorem stream_effect (closeAfter : Option Nat) (frames : List Bytes) (c : Connection) (q : Requests)
    (r : StreamReport) :
    ∃ state closeAfterConnect audio overrunNotice writeQueued log,
      (c.stream q closeAfter r frames).2.1 =
        { c with state, closeAfterConnect, audio, overrunNotice, writeQueued, log } ∧
      (closeAfter = none → state = c.state ∧ closeAfterConnect = c.closeAfterConnect) := by
  induction frames generalizing c q r with
  | nil => exact ⟨_, _, _, _, _, _, rfl, fun _ => ⟨rfl, rfl⟩⟩
  | cons frame rest ih =>
    obtain ⟨notice, log, hwrite⟩ := writeAudio_effect c frame
    obtain ⟨queued, hrelease⟩ := releaseAudio_effect (c.writeAudio frame).2 q
    rw [hwrite] at hrelease
    have hframe : (c.streamFrame q r frame).2.1 = { c with
        audio := (c.audio.write frame).2, overrunNotice := notice, writeQueued := queued, log } :=
      (congrArg (fun d => (d.releaseAudio q).1) hwrite).trans hrelease
    unfold stream
    split
    · exact ⟨_, _, _, _, _, _, rfl, fun _ => ⟨rfl, rfl⟩⟩
    · generalize c.streamFrame q r frame = written at hframe ⊢
      obtain ⟨r', d, p⟩ := written
      change d = _ at hframe
      dsimp only
      split
      · rename_i hlast
        obtain ⟨_, _, hclose⟩ := close_effect d p
        obtain ⟨_, _, _, _, _, _, hrest, _⟩ := ih (d.close p).2.1 (d.close p).2.2 r'
        rw [hrest, hclose, hframe]
        exact ⟨_, _, _, _, _, _, rfl, fun hnone => by rw [hnone] at hlast; cases hlast⟩
      · obtain ⟨_, _, _, _, _, _, hrest, hsame⟩ := ih d p r'
        rw [hframe] at hsame
        rw [hrest, hframe]
        exact ⟨_, _, _, _, _, _, rfl, hsame⟩

theorem stopped_enqueue (q : Requests) (kind : WorkKind) (id : String) :
    (q.enqueue kind id).2.stopped = q.stopped := by
  unfold WorkQueues.enqueue
  split
  · rfl
  · cases kind <;> rfl

theorem stopped_requestWrite (c : Connection) (q : Requests) :
    (c.requestWrite q).2.2.stopped = q.stopped := by
  have h := stopped_enqueue q .write c.id
  unfold requestWrite
  split
  · rfl
  · split <;> rename_i heq <;> rw [heq] at h <;> exact h

/-- The one move between states that a call can make is made once. -/
theorem state_trans {s s₁ s₂ : ConnectionState}
    (h : s₁ = s ∨ s = .connected ∧ s₁ = .disconnecting)
    (h' : s₂ = s₁ ∨ s₁ = .connected ∧ s₂ = .disconnecting) :
    s₂ = s ∨ s = .connected ∧ s₂ = .disconnecting := by
  rcases h with rfl | ⟨hs, rfl⟩
  · exact h'
  · rcases h' with rfl | ⟨hs', _⟩
    · exact .inr ⟨hs, rfl⟩
    · cases hs'

/-- What no call changes, and the one move between states that a call can make. Only on a connected
connection does a call ask for a turn. -/
structure CallFrame (c : Connection) (q : Requests) (c' : Connection) (q' : Requests) : Prop where
  id : c'.id = c.id
  config : c'.config = c.config
  panicsOn : c'.panicsOn = c.panicsOn
  phase : c'.phase = c.phase
  wire : c'.wire = c.wire
  writable : c'.writable = c.writable
  events : c'.events = c.events
  outcome : c'.outcome = c.outcome
  state : c'.state = c.state ∨ c.state = .connected ∧ c'.state = .disconnecting
  writeQueued : c'.writeQueued = c.writeQueued ∨ c.state = .connected
  stopped : q'.stopped = q.stopped

namespace CallFrame

variable {c c₁ c₂ : Connection} {q q₁ q₂ : Requests}

theorem refl (c : Connection) (q : Requests) : CallFrame c q c q :=
  ⟨rfl, rfl, rfl, rfl, rfl, rfl, rfl, rfl, .inl rfl, .inl rfl, rfl⟩

theorem trans (h : CallFrame c q c₁ q₁) (h' : CallFrame c₁ q₁ c₂ q₂) : CallFrame c q c₂ q₂ where
  id := h'.id.trans h.id
  config := h'.config.trans h.config
  panicsOn := h'.panicsOn.trans h.panicsOn
  phase := h'.phase.trans h.phase
  wire := h'.wire.trans h.wire
  writable := h'.writable.trans h.writable
  events := h'.events.trans h.events
  outcome := h'.outcome.trans h.outcome
  state := state_trans h.state h'.state
  writeQueued := by
    rcases h.writeQueued with hq | hq <;> rcases h'.writeQueued with hq' | hq'
    · exact .inl (hq'.trans hq)
    · rcases h.state with hs | ⟨hs, _⟩
      · exact .inr (hs.symm.trans hq')
      · exact .inr hs
    · exact .inr hq
    · exact .inr hq
  stopped := h'.stopped.trans h.stopped

theorem requestWrite (c : Connection) (q : Requests) (hs : c.state = .connected) :
    CallFrame c q (c.requestWrite q).2.1 (c.requestWrite q).2.2 := by
  rw [requestWrite_eq]
  exact ⟨rfl, rfl, rfl, rfl, rfl, rfl, rfl, rfl, .inl rfl, .inr hs, stopped_requestWrite c q⟩

theorem connect (c : Connection) (q : Requests) :
    CallFrame c q (c.connect q).2.1 (c.connect q).2.2 := by
  have hs := stopped_enqueue q .connect c.id
  unfold Connection.connect
  split
  · exact .refl c q
  · split <;> rename_i heq <;> rw [heq] at hs <;>
      exact ⟨rfl, rfl, rfl, rfl, rfl, rfl, rfl, rfl, .inl rfl, .inl rfl, hs⟩

theorem close (c : Connection) (q : Requests) :
    CallFrame c q (c.close q).2.1 (c.close q).2.2 := by
  unfold Connection.close
  split
  · split
    · exact ⟨rfl, rfl, rfl, rfl, rfl, rfl, rfl, rfl, .inl rfl, .inl rfl, rfl⟩
    · exact .refl c q
  · exact ⟨rfl, rfl, rfl, rfl, rfl, rfl, rfl, rfl, .inl rfl, .inl rfl, rfl⟩
  · rename_i hstate
    have hmove : c.beginDisconnect.2 = { c with state := .disconnecting } := by
      simp [beginDisconnect, moved, hstate, ConnectionState.transition, ConnectionState.canBecome]
    dsimp only
    rw [hmove]
    exact ⟨rfl, rfl, rfl, rfl, rfl, rfl, rfl, rfl, .inr ⟨hstate, rfl⟩, .inl rfl,
      stopped_enqueue q _ _⟩
  all_goals exact .refl c q

theorem finish (c : Connection) (q : Requests) :
    CallFrame c q (c.finish q).2.1 (c.finish q).2.2 := by
  unfold Connection.finish
  split
  · exact .refl c q
  · rename_i hs
    have hpush : CallFrame c q
        { c with graceful := true, outbox := c.outbox ++ [c.config.profile.finish.frame] } q :=
      ⟨rfl, rfl, rfl, rfl, rfl, rfl, rfl, rfl, .inl rfl, .inl rfl, rfl⟩
    exact hpush.trans (requestWrite _ q (not_not.mp hs))

theorem queueText (c : Connection) (s : String) (q : Requests) :
    CallFrame c q (c.queueText s q).2.1 (c.queueText s q).2.2 := by
  have hpush : CallFrame c q { c with outbox := c.outbox ++ [.text s] } q :=
    ⟨rfl, rfl, rfl, rfl, rfl, rfl, rfl, rfl, .inl rfl, .inl rfl, rfl⟩
  unfold Connection.queueText
  split <;> rename_i hs
  · exact .refl c q
  · exact .refl c q
  · exact .refl c q
  · exact hpush
  · exact hpush
  · exact hpush.trans (requestWrite _ q hs)

theorem writeAudio (c : Connection) (chunk : Bytes) (q : Requests) :
    CallFrame c q (c.writeAudio chunk).2 q := by
  unfold Connection.writeAudio
  dsimp only
  split <;> exact ⟨rfl, rfl, rfl, rfl, rfl, rfl, rfl, rfl, .inl rfl, .inl rfl, rfl⟩

theorem releaseAudio (c : Connection) (q : Requests) :
    CallFrame c q (c.releaseAudio q).1 (c.releaseAudio q).2 := by
  unfold Connection.releaseAudio
  split
  · rename_i hs
    exact requestWrite c q (beq_iff_eq.mp (Bool.and_eq_true_iff.mp hs).2)
  · exact .refl c q

theorem dropHandle (c : Connection) (q : Requests) : CallFrame c q c.dropHandle q := by
  unfold Connection.dropHandle
  dsimp only
  split <;> exact ⟨rfl, rfl, rfl, rfl, rfl, rfl, rfl, rfl, .inl rfl, .inl rfl, rfl⟩

/-- Every call keeps to the frame. -/
theorem perform (c : Connection) (q : Requests) (call : Call) :
    CallFrame c q (c.perform q call).2.1 (c.perform q call).2.2 :=
  KeptByCalls.perform (P := CallFrame c q) (W := CallFrame c q)
    { connect := fun h => h.trans (connect _ _)
      close := fun h => h.trans (close _ _)
      subscribe := fun h => h.trans ⟨rfl, rfl, rfl, rfl, rfl, rfl, rfl, rfl, .inl rfl, .inl rfl, rfl⟩
      finish := fun h => h.trans (finish _ _)
      queueText := fun s h => h.trans (queueText _ s _)
      queueHeld := fun s h => h.trans (queueText _ s _)
      hold := fun h => h
      write := fun chunk h => h.trans (writeAudio _ chunk _)
      commit := fun _ _ h => h.trans ⟨rfl, rfl, rfl, rfl, rfl, rfl, rfl, rfl, .inl rfl, .inl rfl, rfl⟩
      release := fun h => h.trans (releaseAudio _ _)
      warn := fun _ h => h.trans ⟨rfl, rfl, rfl, rfl, rfl, rfl, rfl, rfl, .inl rfl, .inl rfl, rfl⟩
      drop := fun h => h.trans (dropHandle _ _) }
    call (.refl c q)

end CallFrame

/-- What concerns the requests of the caller is kept by every call if `connect` and `close` keep it. -/
theorem keptByCalls_of_requests {P : Connection → Requests → Prop}
    (congr : ∀ {c c' q q'}, c'.connectRequested = c.connectRequested →
      c'.closeAfterConnect = c.closeAfterConnect → q'.stopped = q.stopped → P c q → P c' q')
    (connect : ∀ {c q}, P c q → P (c.connect q).2.1 (c.connect q).2.2)
    (close : ∀ {c q}, P c q → P (c.close q).2.1 (c.close q).2.2) : KeptByCalls P P where
  connect := connect
  close := close
  subscribe h := congr (by rfl) (by rfl) rfl h
  finish {c q} h := by
    rcases finish_effect c q with ⟨_, heq⟩ | ⟨_, _, heq⟩ <;>
      exact congr (by rw [heq]) (by rw [heq]) (CallFrame.finish c q).stopped h
  queueText {c q} s h := by
    rcases queueText_effect c s q with ⟨_, heq⟩ | ⟨_, _, heq⟩ <;>
      exact congr (by rw [heq]) (by rw [heq]) (CallFrame.queueText c s q).stopped h
  queueHeld {c q} s h := by
    rcases queueText_effect c s q with ⟨_, heq⟩ | ⟨_, _, heq⟩ <;>
      exact congr (by rw [heq]) (by rw [heq]) (CallFrame.queueText c s q).stopped h
  warn _ h := congr (by rfl) (by rfl) rfl h
  drop {c q} h := by
    obtain ⟨_, heq⟩ := dropHandle_effect c
    exact congr (by rw [heq]) (by rw [heq]) rfl h
  hold h := h
  write {c q} chunk h := by
    obtain ⟨_, _, heq⟩ := writeAudio_effect c chunk
    exact congr (by rw [heq]) (by rw [heq]) rfl h
  commit _ _ h := congr (by rfl) (by rfl) rfl h
  release {c q} h := by
    obtain ⟨_, heq⟩ := releaseAudio_effect c q
    exact congr (by rw [heq]) (by rw [heq]) (CallFrame.releaseAudio c q).stopped h

/-- What only some of the calls change. -/
structure CallScope (c : Connection) (q : Requests) (call : Call) (c' : Connection) : Prop where
  graceful : c'.graceful = c.graceful ∨
    call = .finish ∧ c.state = .connected ∧ c'.graceful = true
  waits : c'.waits.length = c.waits.length ∨
    call = .closeWithCompletion ∧ (c.closeWithCompletion q).1 = .ok () ∧
      c'.waits.length = c.waits.length + 1
  held : c'.held = c.held ∨ call = .drop ∧ c' = { c with held := false, waits := c'.waits }
  closing : c'.state = c.state ∧ c'.closeAfterConnect = c.closeAfterConnect ∨
    call.asksToClose = true

/-- Most calls change none of it. -/
theorem CallScope.of_eq {c c' : Connection} {q : Requests} {call : Call}
    (hgraceful : c'.graceful = c.graceful) (hwaits : c'.waits = c.waits) (hheld : c'.held = c.held)
    (hstate : c'.state = c.state) (hnoted : c'.closeAfterConnect = c.closeAfterConnect) :
    CallScope c q call c' :=
  ⟨.inl hgraceful, .inl (by rw [hwaits]), .inl hheld, .inl ⟨hstate, hnoted⟩⟩

theorem scope_perform (c : Connection) (q : Requests) (call : Call) :
    CallScope c q call (c.perform q call).2.1 := by
  cases call with
  | connect =>
    obtain ⟨_, heq⟩ := connect_effect c q
    change CallScope c q .connect (c.connect q).2.1
    rw [heq]
    exact .of_eq rfl rfl rfl rfl rfl
  | close =>
    obtain ⟨_, _, heq⟩ := close_effect c q
    change CallScope c q .close (c.close q).2.1
    rw [heq]
    exact ⟨.inl rfl, .inl rfl, .inl rfl, .inr rfl⟩
  | closeWithCompletion =>
    obtain ⟨_, _, heq⟩ := close_effect c q
    change CallScope c q .closeWithCompletion (c.closeWithCompletion q).2.1
    rcases closeWithCompletion_cases c q with ⟨_, hafter⟩ | ⟨_, hafter⟩
    · rw [hafter, heq]
      exact ⟨.inl rfl, .inr ⟨rfl, by rw [hafter], by simp [subscribed]⟩, .inl rfl, .inr rfl⟩
    · rw [hafter, heq]
      exact ⟨.inl rfl, .inl rfl, .inl rfl, .inr rfl⟩
  | finish =>
    change CallScope c q .finish (c.finish q).2.1
    rcases finish_effect c q with ⟨_, heq⟩ | ⟨hconn, _, heq⟩ <;> rw [heq]
    · exact .of_eq rfl rfl rfl rfl rfl
    · exact ⟨.inr ⟨rfl, hconn, rfl⟩, .inl rfl, .inl rfl, .inl ⟨rfl, rfl⟩⟩
  | text s =>
    change CallScope c q (.text s) (c.queueText s q).2.1
    rcases queueText_effect c s q with ⟨_, heq⟩ | ⟨_, _, heq⟩ <;> rw [heq] <;>
      exact .of_eq rfl rfl rfl rfl rfl
  | audio chunks text =>
    obtain ⟨_, _, _, hwrite⟩ := writeChunks_effect chunks c
    cases text with
    | none =>
      obtain ⟨_, hrelease⟩ := releaseAudio_effect (c.writeChunks chunks).2 q
      change CallScope c q (.audio chunks none) ((c.writeChunks chunks).2.releaseAudio q).1
      rw [hrelease, hwrite]
      exact .of_eq rfl rfl rfl rfl rfl
    | some s =>
      obtain ⟨_, hrelease⟩ := releaseAudio_effect ((c.writeChunks chunks).2.queueText s q).2.1
        ((c.writeChunks chunks).2.queueText s q).2.2
      change CallScope c q (.audio chunks (some s))
        (((c.writeChunks chunks).2.queueText s q).2.1.releaseAudio _).1
      rw [hrelease]
      rcases queueText_effect (c.writeChunks chunks).2 s q with ⟨_, heq⟩ | ⟨_, _, heq⟩ <;>
        rw [heq, hwrite] <;> exact .of_eq rfl rfl rfl rfl rfl
  | slot bytes commit =>
    obtain ⟨_, hrelease⟩ := releaseAudio_effect (c.commitSlot bytes commit).2 q
    change CallScope c q (.slot bytes commit) ((c.commitSlot bytes commit).2.releaseAudio q).1
    rw [hrelease]
    exact .of_eq rfl rfl rfl rfl rfl
  | stream settings pcm closeAfter =>
    obtain ⟨_, _, _, _, _, _, heq, hopen⟩ := stream_effect closeAfter (settings.cut pcm) c q {}
    change CallScope c q (.stream settings pcm closeAfter)
      (c.stream q closeAfter {} (settings.cut pcm)).2.1
    rw [heq]
    refine ⟨.inl rfl, .inl rfl, .inl rfl, ?_⟩
    cases closeAfter with
    | none => exact .inl (hopen rfl)
    | some n => exact .inr rfl
  | inspect | target => exact .of_eq rfl rfl rfl rfl rfl
  | drop =>
    obtain ⟨waits, heq⟩ := dropHandle_effect c
    have hlength : c.dropHandle.waits.length = c.waits.length := by
      unfold dropHandle abandonWaits
      dsimp only
      split <;> simp
    change CallScope c q .drop c.dropHandle
    exact ⟨.inl (by rw [heq]), .inl hlength, .inr ⟨rfl, by rw [heq]⟩, .inl (by rw [heq]; exact ⟨rfl, rfl⟩)⟩

end Connection

/-- Whoever has a request in the queues has woken the loop. -/
def WorkQueues.Heard {α : Type} (q : WorkQueues α) : Prop :=
  q.connects ≠ [] ∨ q.disconnects ≠ [] ∨ q.writes ≠ [] → q.wake = true

/-- From `q` to `q'`, requests are left in one name only. -/
structure Asked (id : String) (q q' : Requests) : Prop where
  stopped : q'.stopped = q.stopped
  connects : ∀ other ∈ q.connects, other ∈ q'.connects
  disconnects : ∀ other ∈ q.disconnects, other ∈ q'.disconnects
  newConnects : ∀ other, other ≠ id → other ∈ q'.connects → other ∈ q.connects
  newDisconnects : ∀ other, other ≠ id → other ∈ q'.disconnects → other ∈ q.disconnects
  writes : ∀ other, other ≠ id → q'.writes.count other = q.writes.count other
  heard : q.Heard → q'.Heard

namespace Asked

variable {id : String} {q q₁ q₂ : Requests}

theorem refl (id : String) (q : Requests) : Asked id q q :=
  ⟨rfl, fun _ h => h, fun _ h => h, fun _ _ h => h, fun _ _ h => h, fun _ _ => rfl, fun h => h⟩

theorem trans (h : Asked id q q₁) (h' : Asked id q₁ q₂) : Asked id q q₂ where
  stopped := h'.stopped.trans h.stopped
  connects other ho := h'.connects other (h.connects other ho)
  disconnects other ho := h'.disconnects other (h.disconnects other ho)
  newConnects other ho hin := h.newConnects other ho (h'.newConnects other ho hin)
  newDisconnects other ho hin := h.newDisconnects other ho (h'.newDisconnects other ho hin)
  writes other ho := (h'.writes other ho).trans (h.writes other ho)
  heard hq := h'.heard (h.heard hq)

theorem enqueue (q : Requests) (kind : WorkKind) (id : String) : Asked id q (q.enqueue kind id).2 := by
  unfold WorkQueues.enqueue
  split
  · exact refl id q
  · have hnew : ∀ (names : List String) (other : String), other ≠ id → other ∈ names ++ [id] →
        other ∈ names := by
      intro names other ho hin
      exact (List.mem_append.mp hin).resolve_right fun h => ho (List.mem_singleton.mp h)
    cases kind with
    | connect =>
      exact ⟨rfl, fun _ h => List.mem_append_left _ h, fun _ h => h, hnew _, fun _ _ h => h,
        fun _ _ => rfl, fun _ _ => rfl⟩
    | disconnect =>
      exact ⟨rfl, fun _ h => h, fun _ h => List.mem_append_left _ h, fun _ _ h => h, hnew _,
        fun _ _ => rfl, fun _ _ => rfl⟩
    | write =>
      refine ⟨rfl, fun _ h => h, fun _ h => h, fun _ _ h => h, fun _ _ h => h, fun other ho => ?_,
        fun _ _ => rfl⟩
      have hother : ¬ id = other := fun h => ho h.symm
      simp [List.count_append, hother]

theorem requestWrite (c : Connection) (q : Requests) : Asked c.id q (c.requestWrite q).2.2 := by
  have h := enqueue q .write c.id
  unfold Connection.requestWrite
  split
  · exact refl _ q
  · split <;> rename_i heq <;> rw [heq] at h <;> exact h

theorem connect (c : Connection) (q : Requests) : Asked c.id q (c.connect q).2.2 := by
  have h := enqueue q .connect c.id
  unfold Connection.connect
  split
  · exact refl _ q
  · split <;> rename_i heq <;> rw [heq] at h <;> exact h

theorem close (c : Connection) (q : Requests) : Asked c.id q (c.close q).2.2 := by
  have hid : c.beginDisconnect.2.id = c.id := by
    unfold Connection.beginDisconnect Connection.moved
    cases c.state.transition .connected .disconnecting <;> rfl
  have h := enqueue q .disconnect c.beginDisconnect.2.id
  rw [hid] at h
  unfold Connection.close
  split
  · split <;> exact refl _ q
  · exact refl _ q
  · rw [← hid] at h ⊢
    exact h
  all_goals exact refl _ q

theorem finish (c : Connection) (q : Requests) : Asked c.id q (c.finish q).2.2 := by
  unfold Connection.finish
  split
  · exact refl _ q
  · exact requestWrite
      { c with graceful := true, outbox := c.outbox ++ [c.config.profile.finish.frame] } q

theorem queueText (c : Connection) (s : String) (q : Requests) :
    Asked c.id q (c.queueText s q).2.2 := by
  unfold Connection.queueText
  split
  · exact refl _ q
  · exact refl _ q
  · exact refl _ q
  · exact refl _ q
  · exact refl _ q
  · exact requestWrite { c with outbox := c.outbox ++ [.text s] } q

theorem releaseAudio (c : Connection) (q : Requests) : Asked c.id q (c.releaseAudio q).2 := by
  unfold Connection.releaseAudio
  split
  · exact requestWrite c q
  · exact refl _ q

/-- A call leaves its requests in the name of its connection. -/
theorem perform (c : Connection) (q : Requests) (call : Call) :
    Asked c.id q (c.perform q call).2.2 := by
  have hcall : ∀ {d d' : Connection} {p p' : Requests}, d.id = c.id ∧ Asked c.id q p →
      d'.id = d.id → Asked d.id p p' → d'.id = c.id ∧ Asked c.id q p' := by
    intro d d' p p' h hid hasked
    rw [h.1] at hid hasked
    exact ⟨hid, h.2.trans hasked⟩
  have hkept : Connection.KeptByCalls (fun d p => d.id = c.id ∧ Asked c.id q p)
      (fun d p => d.id = c.id ∧ Asked c.id q p) :=
    { connect := fun h => hcall h (Connection.CallFrame.connect _ _).id (connect _ _)
      close := fun h => hcall h (Connection.CallFrame.close _ _).id (close _ _)
      subscribe := fun h => h
      finish := fun h => hcall h (Connection.CallFrame.finish _ _).id (finish _ _)
      queueText := fun s h => hcall h (Connection.CallFrame.queueText _ s _).id (queueText _ s _)
      queueHeld := fun s h => hcall h (Connection.CallFrame.queueText _ s _).id (queueText _ s _)
      warn := fun _ h => h
      drop := fun h => hcall h (Connection.CallFrame.dropHandle _ (q := q)).id (refl _ _)
      hold := fun h => h
      write := fun chunk h =>
        hcall h (Connection.CallFrame.writeAudio _ chunk (q := q)).id (refl _ _)
      commit := fun _ _ h => h
      release := fun h => hcall h (Connection.CallFrame.releaseAudio _ _).id (releaseAudio _ _) }
  exact (hkept.perform call ⟨rfl, refl _ q⟩).2

end Asked

end VoiceBridge
