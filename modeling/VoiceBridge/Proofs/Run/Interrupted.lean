import VoiceBridge.Proofs.Run.Along
import VoiceBridge.Proofs.Run.AudioAccount

/-!
# A pick-up that calls interrupt

To take up a request to connect, the loop begins an audio cycle and then drops the notice of an overrun that
was noted before. Both are done at once in `Bridge.move`, but others may call on the connection in between.
`loopAmid` is a round of the loop with calls there. It comes to the round followed by the calls, with the
notice dropped once more (`loopAmid_eq`): for as long as the wire is not open a call looks neither at the
notice nor at the flag of a request for a turn (`perform_unasked`).
-/

namespace VoiceBridge

namespace Connection

variable {c : Connection} {q : Requests}

/-- The connection with another notice and another flag of a request for a turn. -/
def asked (c : Connection) (overrunNotice writeQueued : Bool) : Connection :=
  { c with overrunNotice, writeQueued }

/-- A write notes an overrun whatever has been noted before. -/
theorem writeAudio_asked (c : Connection) (notice queued : Bool) (chunk : Bytes) :
    ∃ notice', (c.asked notice queued).writeAudio chunk =
      ((c.writeAudio chunk).1, (c.writeAudio chunk).2.asked notice' queued) := by
  unfold writeAudio asked
  dsimp only
  split
  · exact ⟨true, rfl⟩
  · exact ⟨notice, rfl⟩

theorem writeChunks_asked (chunks : List Bytes) (c : Connection) (notice queued : Bool) :
    ∃ notice', (c.asked notice queued).writeChunks chunks =
      ((c.writeChunks chunks).1, (c.writeChunks chunks).2.asked notice' queued) := by
  induction chunks generalizing c notice with
  | nil => exact ⟨notice, rfl⟩
  | cons chunk rest ih =>
    obtain ⟨noted, hwrite⟩ := c.writeAudio_asked notice queued chunk
    obtain ⟨notice', hrest⟩ := ih (c.writeAudio chunk).2 noted
    refine ⟨notice', ?_⟩
    simp only [writeChunks]
    rw [hwrite]
    dsimp only
    rw [hrest]

/-- Nobody is asked for a turn before the wire is open. -/
theorem releaseAudio_of_connecting (hs : c.state = .connecting) : c.releaseAudio q = (c, q) := by
  simp [releaseAudio, isConnected, hs]

theorem queueText_of_connecting (hs : c.state = .connecting) (s : String) :
    c.queueText s q = (.ok (), { c with outbox := c.outbox ++ [.text s] }, q) := by
  simp [queueText, hs]

/-- Nothing is streamed before the wire is open. -/
theorem stream_of_connecting (hs : c.state = .connecting) (closeAfter : Option Nat) (r : StreamReport)
    (frames : List Bytes) :
    c.stream q closeAfter r frames = (r, if frames.isEmpty then c else c.streamCut r, q) := by
  cases frames with
  | nil => rfl
  | cons frame rest => simp [stream, isConnected, hs]

theorem writeChunks_state (chunks : List Bytes) (c : Connection) :
    (c.writeChunks chunks).2.state = c.state := by
  induction chunks generalizing c with
  | nil => rfl
  | cons chunk rest ih =>
    obtain ⟨_, _, heq⟩ := writeAudio_effect c chunk
    exact (ih (c.writeAudio chunk).2).trans (congrArg (·.state) heq)

/-! ### Calls before the wire is open -/

theorem perform_connect_of_connecting (hs : c.state = .connecting) :
    c.perform q .connect = (.refused (c.invalid "connect"), c, q) := by
  simp [perform, Answer.ofCall, Answer.ofUnit, connect, hs]

theorem perform_close_of_connecting (hs : c.state = .connecting) :
    c.perform q .close = (.done, { c with closeAfterConnect := true }, q) := by
  simp [perform, Answer.ofCall, Answer.ofUnit, close, hs]

theorem perform_closeWithCompletion_of_connecting (hs : c.state = .connecting) :
    c.perform q .closeWithCompletion =
      (.done, { c with closeAfterConnect := true }.subscribed, q) := by
  simp [perform, Answer.ofCall, Answer.ofUnit, closeWithCompletion, close, hs]

theorem perform_finish_of_connecting (hs : c.state = .connecting) :
    c.perform q .finish = (.refused (c.invalid "finish"), c, q) := by
  simp [perform, Answer.ofCall, Answer.ofUnit, finish, hs]

theorem perform_text_of_connecting (hs : c.state = .connecting) (s : String) :
    c.perform q (.text s) = (.done, { c with outbox := c.outbox ++ [.text s] }, q) := by
  simp [perform, Answer.ofCall, Answer.ofUnit, queueText_of_connecting hs]

theorem perform_audio_of_connecting (hs : c.state = .connecting) (chunks : List Bytes)
    (text : Option String) :
    c.perform q (.audio chunks text) =
      (.written (c.writeChunks chunks).1 (c.writeChunks chunks).2.audio.pendingLength,
        { (c.writeChunks chunks).2 with
          outbox := (c.writeChunks chunks).2.outbox ++ text.toList.map OutboundFrame.text }, q) := by
  have hwritten := (c.writeChunks_state chunks).trans hs
  cases text with
  | none =>
    simp only [perform]
    rw [releaseAudio_of_connecting hwritten]
    simp
  | some s =>
    simp only [perform]
    rw [queueText_of_connecting hwritten]
    dsimp only
    rw [releaseAudio_of_connecting (by exact hwritten)]
    rfl

theorem perform_slot_of_connecting (hs : c.state = .connecting) (bytes : Bytes) (commit : Option Nat) :
    (c.perform q (.slot bytes commit)).2 = ((c.commitSlot bytes commit).2, q) := by
  simp only [perform]
  rw [releaseAudio_of_connecting (by exact hs)]

theorem dropHandle_asked (c : Connection) (notice queued : Bool) :
    (c.asked notice queued).dropHandle = c.dropHandle.asked notice queued := by
  have hdrop : ∀ d : Connection, d.dropHandle =
      if d.isDriven then { d with held := false } else { d with held := false }.abandonWaits :=
    fun _ => rfl
  have hdriven : (c.asked notice queued).isDriven = c.isDriven := rfl
  rw [hdrop, hdrop, hdriven]
  split <;> rfl

/-- Before the wire is open a call leaves no request, and looks neither at the notice nor at the flag. -/
theorem perform_unasked (hs : c.state = .connecting) (notice queued : Bool) (call : Call) :
    (c.perform q call).2.2 = q ∧ ∃ notice', (c.asked notice queued).perform q call =
      ((c.perform q call).1, (c.perform q call).2.1.asked notice' queued, q) := by
  have hs' : (c.asked notice queued).state = .connecting := hs
  cases call with
  | connect =>
    rw [perform_connect_of_connecting hs, perform_connect_of_connecting hs']
    exact ⟨rfl, notice, rfl⟩
  | close =>
    rw [perform_close_of_connecting hs, perform_close_of_connecting hs']
    exact ⟨rfl, notice, rfl⟩
  | closeWithCompletion =>
    rw [perform_closeWithCompletion_of_connecting hs, perform_closeWithCompletion_of_connecting hs']
    exact ⟨rfl, notice, rfl⟩
  | finish =>
    rw [perform_finish_of_connecting hs, perform_finish_of_connecting hs']
    exact ⟨rfl, notice, rfl⟩
  | text s =>
    rw [perform_text_of_connecting hs, perform_text_of_connecting hs']
    exact ⟨rfl, notice, rfl⟩
  | audio chunks text =>
    obtain ⟨notice', hwrite⟩ := c.writeChunks_asked chunks notice queued
    rw [perform_audio_of_connecting hs, perform_audio_of_connecting hs', hwrite]
    exact ⟨rfl, notice', rfl⟩
  | slot bytes commit =>
    have hanswer : ((c.asked notice queued).perform q (.slot bytes commit)).1 =
      (c.perform q (.slot bytes commit)).1 := rfl
    refine ⟨by rw [perform_slot_of_connecting hs], notice, Prod.ext hanswer ?_⟩
    rw [perform_slot_of_connecting hs, perform_slot_of_connecting hs']
    rfl
  | stream settings pcm closeAfter =>
    simp only [perform]
    rw [stream_of_connecting hs, stream_of_connecting hs']
    cases settings.cut pcm <;> exact ⟨rfl, notice, rfl⟩
  | inspect | target => exact ⟨rfl, notice, rfl⟩
  | drop => exact ⟨rfl, notice, Prod.ext rfl (Prod.ext (dropHandle_asked c notice queued) rfl)⟩

theorem state_perform_of_connecting (hs : c.state = .connecting) (call : Call) :
    (c.perform q call).2.1.state = .connecting := by
  rcases (CallFrame.perform c q call).state with hsame | ⟨hconn, -⟩
  · exact hsame.trans hs
  · rw [hs] at hconn
    cases hconn

/-- Calls of whoever holds the connection, one after the other. -/
def calledOn (q : Requests) (calls : List Call) (c : Connection) : Connection :=
  calls.foldl (fun c call => if c.held then (c.perform q call).2.1 else c) c

theorem calledOn_cons (call : Call) (calls : List Call) :
    c.calledOn q (call :: calls) =
      (if c.held then (c.perform q call).2.1 else c).calledOn q calls := rfl

/-- Before the wire is open, calls look neither at the notice nor at the flag. -/
theorem calledOn_asked (calls : List Call) (hs : c.state = .connecting) (notice queued : Bool) :
    ∃ notice', (c.asked notice queued).calledOn q calls = (c.calledOn q calls).asked notice' queued := by
  induction calls generalizing c notice with
  | nil => exact ⟨notice, rfl⟩
  | cons call calls ih =>
    rw [calledOn_cons, calledOn_cons]
    have hheld : (c.asked notice queued).held = c.held := rfl
    rw [hheld]
    cases c.held with
    | false => exact ih hs notice
    | true =>
      obtain ⟨-, noted, hperform⟩ := c.perform_unasked (q := q) hs notice queued call
      simp only [if_true]
      rw [hperform]
      exact ih (state_perform_of_connecting hs call) noted

/-- Before the wire is open, calls leave the driver and the flag alone. -/
theorem calledOn_frame (calls : List Call) (hs : c.state = .connecting) :
    (c.calledOn q calls).id = c.id ∧ (c.calledOn q calls).phase = c.phase ∧
      (c.calledOn q calls).state = .connecting ∧ (c.calledOn q calls).writeQueued = c.writeQueued := by
  induction calls generalizing c with
  | nil => exact ⟨rfl, rfl, hs, rfl⟩
  | cons call calls ih =>
    rw [calledOn_cons]
    cases c.held with
    | false => exact ih hs
    | true =>
      have hframe := CallFrame.perform c q call
      obtain ⟨hid, hphase, hstate, hqueued⟩ := ih (state_perform_of_connecting (q := q) hs call)
      have hflag := hframe.writeQueued.resolve_right (by simp [hs])
      exact ⟨hid.trans hframe.id, hphase.trans hframe.phase, hstate, hqueued.trans hflag⟩

end Connection

namespace Bridge

/-- Take up a request to connect while calls fall between the beginning of the cycle and the moment at which
what was noted before is dropped. The queues are those that the loop has left. -/
def takeConnectAmid (b : Bridge) (q : Requests) (calls : List Call) (c : Connection) : Connection :=
  if c.isAlive then
    match c.moved .idle .connecting with
    | .ok c => dropNotice ((b.startCycle c).calledOn q calls)
    | .error _ => c
  else c

/-- What the requests that wait for a connection make of it when calls interrupt its pick-up. -/
def takenUpAmid (b : Bridge) (q : Requests) (calls : List Call) (c : Connection) : Connection :=
  let c := if c.id ∈ b.queues.connects then b.takeConnectAmid q calls c else c
  let c := if c.id ∈ b.queues.disconnects then takeDisconnect c else c
  if c.id ∈ b.queues.writes then takeWrite c else c

/-- A round of the loop in which calls interrupt the pick-up of the connection of a name. -/
def loopAmid (b : Bridge) (id : String) (calls : List Call) : Bridge :=
  match b.find? id with
  | some c => (b.move .loop).modify id fun _ => b.takenUpAmid (b.move .loop).queues calls c
  | none => b.move .loop

/-- Calls on the connection of a name. -/
def callsOn (id : String) (calls : List Call) : List Move := calls.map fun call => .act (.call id call)

/-- Two changes of the connection of a name are one. -/
theorem modify_modify {b : Bridge} {id : String} {f g : Connection → Connection}
    (hf : ∀ c : Connection, c.id = id → (f c).id = id) :
    (b.modify id f).modify id g = b.modify id (g ∘ f) := by
  have hroster : ∀ l : List Connection, modifyIn id g (modifyIn id f l) = modifyIn id (g ∘ f) l := by
    intro l
    induction l with
    | nil => rfl
    | cons c rest ih =>
      by_cases hc : c.id = id
      · simp only [modifyIn, if_pos hc, hf c hc, if_true]
        rfl
      · simp only [modifyIn, if_neg hc, ih]
  unfold modify
  rw [hroster]

/-- To make nothing else of the connection of a name changes nothing. -/
theorem modify_of_find? {b : Bridge} {id : String} {c : Connection} {f : Connection → Connection}
    (hc : b.find? id = some c) (hf : f c = c) : b.modify id f = b := by
  have hroster : ∀ l : List Connection, l.find? (·.id == id) = some c → modifyIn id f l = l := by
    intro l hl
    induction l with
    | nil => rfl
    | cons d rest ih =>
      by_cases hd : d.id = id
      · have hsame : d = c := by simpa [hd] using hl
        rw [modifyIn, if_pos hd, hsame, hf]
      · rw [modifyIn, if_neg hd, ih (by simpa [hd] using hl)]
  unfold modify
  rw [hroster b.roster hc]

/-- Calls on a connection whose wire is being opened change nothing else. -/
theorem play_callsOn (calls : List Call) {b : Bridge} {id : String} {c : Connection}
    (hc : b.find? id = some c) (hs : c.state = .connecting) :
    b.play (callsOn id calls) = b.modify id fun _ => c.calledOn b.queues calls := by
  induction calls generalizing b c with
  | nil => exact (put_self hc).symm
  | cons call calls ih =>
    have hid := id_of_find? hc
    rw [callsOn, List.map_cons, play_cons, move_act, act_call, hc, Connection.calledOn_cons]
    dsimp only
    cases hheld : c.held with
    | false =>
      simp only [Bool.false_eq_true, if_false]
      exact ih hc hs
    | true =>
      simp only [if_true]
      have hid' := (Connection.CallFrame.perform c b.queues call).id.trans hid
      have hqueues := (c.perform_unasked (q := b.queues) hs false false call).1
      rw [hqueues]
      have hput : b.put id (c.perform b.queues call).2.1 b.queues =
        b.modify id fun _ => (c.perform b.queues call).2.1 := rfl
      rw [hput]
      have hfind : (b.modify id fun _ => (c.perform b.queues call).2.1).find? id =
          some (c.perform b.queues call).2.1 := by
        rw [← hput, find?_put hid', if_pos rfl, hc]
        rfl
      have hrest := ih hfind (Connection.state_perform_of_connecting hs call)
      rw [callsOn] at hrest
      rw [hrest, modify_modify fun _ _ => hid']
      rfl

theorem exists_play_callsOn (calls : List Call) {b : Bridge} {id : String} {c : Connection}
    (hc : b.find? id = some c) (hs : c.state = .connecting) :
    ∃ c', (b.play (callsOn id calls)).find? id = some c' ∧ c'.state = .connecting := by
  obtain ⟨hid, -, hstate, -⟩ := Connection.calledOn_frame (q := b.queues) calls hs
  refine ⟨_, ?_, hstate⟩
  rw [play_callsOn calls hc hs]
  refine (find?_modifyIn (fun _ _ => hid.trans (id_of_find? hc)) id _).trans ?_
  rw [if_pos rfl]
  exact congrArg (Option.map _) hc

theorem find?_dropNotice {b : Bridge} {id : String} {c : Connection} (hc : b.find? id = some c) :
    (b.modify id dropNotice).find? id = some (dropNotice c) := by
  refine (find?_modifyIn (f := dropNotice) (fun _ h => h) id _).trans ?_
  rw [if_pos rfl]
  exact congrArg (Option.map dropNotice) hc

theorem wired_dropNotice {b : Bridge} (hb : ∀ c ∈ b.roster, c.Standing b.queues.stopped ∧ c.Wired)
    (id : String) : ∀ c ∈ (b.modify id dropNotice).roster,
      c.Standing (b.modify id dropNotice).queues.stopped ∧ c.Wired := by
  refine forall_modifyIn hb fun c _ h => ⟨?_, ?_⟩
  · exact h.1.congr rfl rfl rfl rfl
  · exact ⟨h.2.audio, h.2.outbox, h.2.closeSent, h.2.closing, h.2.unopened⟩

/-- The rest of a round does nothing to a connection whose request to connect has just been taken up, but for
the flag of a request for a turn. -/
theorem takenUp_rest {b : Bridge} {c : Connection} (hs : c.state = .connecting) (ha : c.isAlive = true) :
    (if c.id ∈ b.queues.writes then takeWrite c else c) =
        c.asked c.overrunNotice (c.writeQueued && !decide (c.id ∈ b.queues.writes)) ∧
      (if c.id ∈ b.queues.disconnects then takeDisconnect c else c) = c := by
  constructor
  · rw [takeWrite_eq]
    split
    · rename_i hmem
      simp [Connection.asked, hmem, ha, Connection.isConnected, hs]
    · rename_i hmem
      simp [Connection.asked, hmem]
  · split
    · simp [takeDisconnect, hs]
    · rfl

theorem takenUpAmid_eq {b : Bridge} {c : Connection} (ha : c.isAlive = true) (hidle : c.state = .idle)
    (hmem : c.id ∈ b.queues.connects) (q : Requests) (calls : List Call) :
    b.takenUpAmid q calls c = dropNotice ((b.takenUp c).calledOn q calls) := by
  have hmove : c.moved .idle .connecting = .ok { c with state := .connecting } :=
    Connection.moved_eq hidle rfl
  let start : Connection := b.startCycle { c with state := .connecting }
  let flag : Bool := c.writeQueued && !decide (c.id ∈ b.queues.writes)
  have hframe := Connection.calledOn_frame (c := start) (q := q) calls rfl
  have hamid : b.takenUpAmid q calls c = (start.calledOn q calls).asked false flag := by
    have htake : b.takeConnectAmid q calls c = dropNotice (start.calledOn q calls) := by
      rw [takeConnectAmid, if_pos ha, hmove]
    have hs : (dropNotice (start.calledOn q calls)).state = .connecting := hframe.2.2.1
    have halive : (dropNotice (start.calledOn q calls)).isAlive = true := by
      have hphase : (dropNotice (start.calledOn q calls)).phase = start.phase := hframe.2.1
      simp only [Connection.isAlive, Connection.isDriven, hphase]
      exact Bool.or_true _
    have hid : (dropNotice (start.calledOn q calls)).id = c.id := hframe.1
    have hqueued : (dropNotice (start.calledOn q calls)).writeQueued = c.writeQueued := hframe.2.2.2
    unfold takenUpAmid
    dsimp only
    rw [if_pos hmem, htake, (takenUp_rest hs halive).2, (takenUp_rest hs halive).1, hid, hqueued]
    rfl
  have hplain : b.takenUp c = start.asked false flag := by
    have htake : b.takeConnect c = dropNotice start := takeConnect_of_idle ha hidle
    have halive : (dropNotice start).isAlive = true := Bool.or_true _
    unfold takenUp
    dsimp only
    rw [if_pos hmem, htake, (takenUp_rest rfl halive).2, (takenUp_rest rfl halive).1]
    rfl
  obtain ⟨notice, hcalled⟩ := start.calledOn_asked (q := q) calls rfl false flag
  rw [hamid, hplain, hcalled]
  rfl

/-- A pick-up that is interrupted comes to the round of the loop, followed by the calls, with the notice
dropped once more. -/
theorem loopAmid_eq {b : Bridge} (hb : ∀ c ∈ b.roster, c.Standing b.queues.stopped) {id : String}
    {c d : Connection} (hc : b.find? id = some c) (hidle : c.state = .idle)
    (hd : (b.move .loop).find? id = some d) (hconnecting : d.state = .connecting) (calls : List Call) :
    b.loopAmid id calls = (b.play (.loop :: callsOn id calls)).modify id dropNotice := by
  have hid := id_of_find? hc
  have hchange := change_of_find? hb hc hd
  have htaken : d = b.takenUp c ∧ c.isAlive = true ∧ c.id ∈ b.queues.connects := by
    cases hchange with
    | takenUp running wake =>
      refine ⟨rfl, ?_, ?_⟩
      · obtain ⟨_, _, _, heq, _, rfl | ⟨halive, _⟩⟩ := takenUp_cases b c
        · rw [heq] at hconnecting
          simp [hidle] at hconnecting
        · exact halive
      · by_contra hmem
        unfold takenUp at hconnecting
        rw [if_neg hmem] at hconnecting
        simp only [takeDisconnect_eq, takeWrite_eq] at hconnecting
        split at hconnecting <;> split at hconnecting <;> simp [hidle] at hconnecting
    | spared => simp [hidle] at hconnecting
  obtain ⟨rfl, halive, hmem⟩ := htaken
  have hcalled := (Connection.calledOn_frame (q := (b.move .loop).queues) calls hconnecting).1
  have hdid := id_of_find? hd
  rw [play_cons, play_callsOn calls hd hconnecting, modify_modify fun _ _ => hcalled.trans hdid]
  rw [loopAmid, hc]
  dsimp only
  rw [takenUpAmid_eq halive hidle hmem]
  rfl

end Bridge

end VoiceBridge
