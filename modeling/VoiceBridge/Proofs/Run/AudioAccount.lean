import VoiceBridge.Proofs.Audio.Account
import VoiceBridge.Proofs.Run.AudioHistory
import VoiceBridge.Proofs.Run.Closing

/-!
# The audio account of a run

From the moment at which the loop takes up the request to connect, the buffer of a connection is empty and
an observer of the run can keep the account of its audio: every chunk that a producer writes, with the
outcome it is told, and every frame of audio and close frame that the driver sends or fails to send.
`audio_accounted` says that the account agrees with what the far end has received and with what waits, as
long as nobody fills slots of the buffer by hand.
-/

namespace VoiceBridge

/-- The bytes of a binary frame. -/
def OutboundFrame.binaryBytes : OutboundFrame → Bytes
  | .binary bytes => bytes
  | .text _ | .ping _ | .close => []

theorem OutboundFrame.binaryBytes_of_isQueued {f : OutboundFrame} (h : f.isQueued = true) :
    f.binaryBytes = [] := by
  cases f with
  | binary bytes => exact List.isEmpty_iff.mp h
  | text | ping | close => rfl

/-- The entry of an account for a frame that was sent or, where that failed, lost. -/
def OutboundFrame.audioEntries (f : OutboundFrame) (success : Bool) : List AudioEntry :=
  match f with
  | .close => [if success then .closed else .closeFailed]
  | .binary bytes => if bytes.isEmpty then [] else [if success then .sent else .failed]
  | .text _ | .ping _ => []

theorem OutboundFrame.audioEntries_of_isQueued {f : OutboundFrame} (h : f.isQueued = true)
    (success : Bool) : f.audioEntries success = [] := by
  cases f with
  | binary bytes => exact if_pos h
  | text => rfl
  | ping | close => cases h

namespace Connection

variable {c c' : Connection} {q : Requests} {ctx : LoopContext}

/-- All bytes of the binary frames that the far end received. -/
def audioReceived (c : Connection) : Bytes := c.wire.sent.flatMap (·.binaryBytes)

/-- What is seen of the audio when the driver sees to something: in a turn, whether the frame it set out to
send was sent, or the driver ended without that. -/
def driverEntries (c : Connection) (e : Errand) (c' : Connection) : List AudioEntry :=
  match e, c.aim? with
  | .turn, some f =>
    if c'.wire.sent = c.wire.sent ++ [f] then f.audioEntries true
    else if c'.phase = .over then f.audioEntries false
    else []
  | _, _ => []

/-- The chunks of a stream, which ends when the connection is no longer connected. -/
def streamEntries (c : Connection) (q : Requests) (closeAfter : Option Nat) (r : StreamReport) :
    List Bytes → List AudioEntry
  | [] => []
  | frame :: rest =>
    if !c.isConnected then []
    else
      let (r, d, q) := c.streamFrame q r frame
      let (d, q) := if closeAfter = some r.frames then (d.close q).2 else (d, q)
      .wrote frame (c.writeAudio frame).1 :: d.streamEntries q closeAfter r rest

/-- The chunks that a call writes, with their outcomes. -/
def callEntries (c : Connection) (q : Requests) : Call → List AudioEntry
  | .audio chunks _ => List.zipWith .wrote chunks (c.writeChunks chunks).1
  | .stream settings pcm closeAfter => c.streamEntries q closeAfter {} (settings.cut pcm)
  | _ => []

/-! ### The account of a call -/

theorem outcome_writeAudio (c : Connection) (chunk : Bytes) :
    (c.writeAudio chunk).1 = (c.audio.write chunk).1 := by
  unfold Connection.writeAudio
  dsimp only
  split <;> rfl

theorem account_writeAudio (h : c.audio.IsSound) (chunk : Bytes) :
    Account c.audio.pending [.wrote chunk (c.writeAudio chunk).1] []
      (c.writeAudio chunk).2.audio.pending := by
  rw [outcome_writeAudio, audio_writeAudio]
  exact AudioBuffer.account_write h chunk

theorem account_writeChunks (chunks : List Bytes) (h : c.audio.IsSound) :
    Account c.audio.pending (List.zipWith .wrote chunks (c.writeChunks chunks).1) []
      (c.writeChunks chunks).2.audio.pending := by
  induction chunks generalizing c with
  | nil => exact .nil _
  | cons chunk rest ih =>
    have hrest := ih (c := (c.writeAudio chunk).2) (by rw [audio_writeAudio]; exact h.write chunk)
    exact (account_writeAudio h chunk).append hrest

theorem account_stream (closeAfter : Option Nat) (frames : List Bytes) {q : Requests} (r : StreamReport)
    (h : c.audio.IsSound) :
    Account c.audio.pending (c.streamEntries q closeAfter r frames) []
      (c.stream q closeAfter r frames).2.1.audio.pending := by
  induction frames generalizing c q r with
  | nil => exact .nil _
  | cons frame rest ih =>
    have hframe : (c.streamFrame q r frame).2.1.audio = (c.writeAudio frame).2.audio :=
      audio_releaseAudio (c.writeAudio frame).2 q
    have hsound : (c.streamFrame q r frame).2.1.audio.IsSound := by
      rw [hframe, audio_writeAudio]
      exact h.write frame
    have hwrite := account_writeAudio h frame
    rw [← hframe] at hwrite
    unfold streamEntries stream
    split
    · exact .nil _
    · dsimp only
      split
      · have hclose := audio_close (c.streamFrame q r frame).2.1 (c.streamFrame q r frame).2.2
        have hrest := ih (c := ((c.streamFrame q r frame).2.1.close (c.streamFrame q r frame).2.2).2.1)
          (q := ((c.streamFrame q r frame).2.1.close (c.streamFrame q r frame).2.2).2.2)
          (c.streamFrame q r frame).1 (by rw [hclose]; exact hsound)
        rw [hclose] at hrest
        exact hwrite.append hrest
      · exact hwrite.append (ih _ hsound)

theorem account_call (call : Call) (hslot : ∀ bytes count, call ≠ .slot bytes count)
    (h : c.audio.IsSound) :
    Account c.audio.pending (c.callEntries q call) [] (c.perform q call).2.1.audio.pending := by
  have hsame : c.audioMarks q call = [] →
      Account c.audio.pending [] [] (c.perform q call).2.1.audio.pending := by
    intro hmarks
    have hreplay := replay_audioMarks (q := q) call h
    rw [hmarks] at hreplay
    have hpending : (c.perform q call).2.1.audio.pending = c.audio.pending :=
      (congrArg Prod.snd hreplay).symm
    rw [hpending]
    exact .nil _
  cases call with
  | audio chunks text =>
    have hend : (c.perform q (.audio chunks text)).2.1.audio = (c.writeChunks chunks).2.audio := by
      cases text with
      | none => exact audio_releaseAudio _ q
      | some s => exact (audio_releaseAudio _ _).trans (audio_queueText _ s q)
    rw [hend]
    exact account_writeChunks chunks h
  | slot bytes count => exact absurd rfl (hslot bytes count)
  | stream settings pcm closeAfter => exact account_stream closeAfter _ {} h
  | _ => exact hsame rfl

/-! ### The account of a step of the driver -/

/-- The account agrees with what the far end has received since `c` and with what waits now. -/
def Accounted (c : Connection) (entries : List AudioEntry) (c' : Connection) : Prop :=
  ∃ received, c'.audioReceived = c.audioReceived ++ received ∧
    Account c.audio.pending entries received c'.audio.pending

theorem Accounted.trans {c₁ c₂ c₃ : Connection} {early late : List AudioEntry}
    (h₁ : Accounted c₁ early c₂) (h₂ : Accounted c₂ late c₃) : Accounted c₁ (early ++ late) c₃ := by
  obtain ⟨received₁, hreceived₁, haccount₁⟩ := h₁
  obtain ⟨received₂, hreceived₂, haccount₂⟩ := h₂
  refine ⟨received₁ ++ received₂, ?_, haccount₁.append haccount₂⟩
  rw [hreceived₂, hreceived₁, List.append_assoc]

/-- The audio stays as it is. -/
theorem Accounted.same (ha : c'.audio = c.audio) (hsent : c'.wire.sent = c.wire.sent) :
    Accounted c [] c' := by
  refine ⟨[], ?_, ?_⟩
  · rw [audioReceived, hsent, List.append_nil, audioReceived]
  · rw [ha]
    exact .nil _

theorem audioReceived_of_sent {f : OutboundFrame} (hsent : c'.wire.sent = c.wire.sent ++ [f]) :
    c'.audioReceived = c.audioReceived ++ f.binaryBytes := by
  rw [audioReceived, hsent, List.flatMap_append, audioReceived]
  simp

/-- A frame is sent. -/
theorem Accounted.of_sent {f : OutboundFrame} {entries : List AudioEntry}
    (hsent : c'.wire.sent = c.wire.sent ++ [f])
    (haccount : Account c.audio.pending entries f.binaryBytes c'.audio.pending) :
    Accounted c entries c' :=
  ⟨f.binaryBytes, audioReceived_of_sent hsent, haccount⟩

/-- What waits is lost. -/
theorem Accounted.of_lost {e : AudioEntry} (cause : e = .failed ∨ e = .closed ∨ e = .closeFailed)
    (ha : c'.audio.pending = []) (hsent : c'.wire.sent = c.wire.sent) : Accounted c [e] c' := by
  refine ⟨[], ?_, ?_⟩
  · rw [audioReceived, hsent, List.append_nil, audioReceived]
  · rw [ha]
    exact .lost cause (.nil [])

/-- Where the driver does not set out to send there is nothing to see. -/
theorem driverEntries_of_none (h : c.aim? = none) (e : Errand) (c' : Connection) :
    c.driverEntries e c' = [] := by
  unfold driverEntries
  rw [h]
  cases e <;> rfl

theorem driverEntries_of_ne_turn {e : Errand} (h : e ≠ .turn) (c c' : Connection) :
    c.driverEntries e c' = [] := by
  unfold driverEntries
  split
  · exact absurd rfl h
  · rfl

theorem driverEntries_of_sent {f : OutboundFrame} (h : c.aim? = some f)
    (hsent : c'.wire.sent = c.wire.sent ++ [f]) : c.driverEntries .turn c' = f.audioEntries true := by
  unfold driverEntries
  rw [h]
  exact if_pos hsent

theorem driverEntries_of_lost {f : OutboundFrame} (h : c.aim? = some f)
    (hsent : c'.wire.sent = c.wire.sent) (hover : c'.phase = .over) :
    c.driverEntries .turn c' = f.audioEntries false := by
  unfold driverEntries
  rw [h]
  dsimp only
  rw [hsent, if_neg (by simp), if_pos hover]

/-- A connection of which nothing happens. -/
theorem driverEntries_self (c : Connection) (e : Errand) : c.driverEntries e c = [] := by
  unfold driverEntries
  split
  · rename_i haim
    have hover : c.phase ≠ .over := fun hp => by simp [aim?, hp] at haim
    rw [if_neg (by simp), if_neg hover]
  · rfl

theorem Accounted.success {s : Session} {f : OutboundFrame} {before after : Connection}
    (hwired : c.Wired) (log : List LogLine) (haim : c.aim? = some f)
    (ha : Attempt ctx c s f before after) :
    Accounted c (c.driverEntries .turn { after with wire := c.wire.sending ctx.network f, log })
      { after with wire := c.wire.sending ctx.network f, log } := by
  rw [driverEntries_of_sent haim rfl]
  cases ha with
  | @text f _ _ _ _ outbox =>
    have hf : f.isQueued = true := hwired.outbox f (by rw [outbox]; exact List.mem_cons_self)
    refine .of_sent (f := f) rfl ?_
    rw [OutboundFrame.audioEntries_of_isQueued hf, OutboundFrame.binaryBytes_of_isQueued hf]
    exact .nil _
  | close =>
    refine .of_sent (f := .close) rfl ?_
    change Account c.audio.pending [.closed] [] c.audio.reset.pending
    rw [AudioBuffer.pending_reset]
    exact .lost (.inr (.inl rfl)) (.nil [])
  | audio _ _ _ _ _ pending =>
    have hne := AudioBuffer.pending_ne_nil hwired.audio pending
    have hentries : (OutboundFrame.binary c.audio.pending).audioEntries true = [.sent] :=
      if_neg (by simpa using hne)
    have haccount : Account c.audio.pending [.sent] (c.audio.pending ++ []) [] := .sent (.nil [])
    refine .of_sent (f := .binary c.audio.pending) rfl ?_
    rw [hentries]
    change Account c.audio.pending [.sent] c.audio.pending c.audio.reset.pending
    rw [AudioBuffer.pending_reset]
    rwa [List.append_nil] at haccount
  | ping =>
    refine .of_sent (f := .ping []) rfl ?_
    exact .nil _

theorem Accounted.failure {s : Session} {f : OutboundFrame} {before after : Connection}
    (hwired : c.Wired) (haim : c.aim? = some f) (ha : Attempt ctx c s f before after)
    (final : ConnectionState) (last : EventKind) (o : TerminalOutcome) (log : List LogLine) :
    Accounted c (c.driverEntries .turn (before.finished final last o log))
      (before.finished final last o log) := by
  have hsent : (before.finished final last o log).wire.sent = c.wire.sent := by cases ha <;> rfl
  rw [driverEntries_of_lost haim hsent rfl]
  cases ha with
  | @text f _ _ _ _ outbox =>
    have hf : f.isQueued = true := hwired.outbox f (by rw [outbox]; exact List.mem_cons_self)
    rw [OutboundFrame.audioEntries_of_isQueued hf]
    exact .same rfl hsent
  | close => exact .of_lost (.inr (.inr rfl)) (AudioBuffer.pending_reset _) hsent
  | audio _ _ _ _ _ pending =>
    have hne := AudioBuffer.pending_ne_nil hwired.audio pending
    have hentries : (OutboundFrame.binary c.audio.pending).audioEntries false = [.failed] :=
      if_neg (by simpa using hne)
    rw [hentries]
    exact .of_lost (.inl rfl) (AudioBuffer.pending_reset _) hsent
  | ping => exact .same rfl hsent

/-- The account of a turn. -/
theorem Accounted.turn {stopped : Bool} (hstanding : c.Standing stopped) (hwired : c.Wired)
    (hsee : c.seeTo? ctx .turn = some c') : Accounted c (c.driverEntries .turn c') c' := by
  obtain ⟨s, hp, _, hw, rfl⟩ := exists_of_seeTo?_turn hsee
  have hs := hstanding.state_of_live hp
  have ho := hstanding.outcome_of_isDriven (by simp [isDriven, hp])
  rcases turn_cases ctx hp hs ho hw with
    ⟨hc, hturn⟩ | ⟨hc, hout, hconn, hpend, log, hturn⟩ | ⟨f, before, after, haim, hattempt, hsend⟩
  · rw [hturn, driverEntries_of_none (by simp [aim?, hp, hc])]
    exact .same rfl rfl
  · rw [hturn, driverEntries_of_none (by simp [aim?, hp, hw, hc, hout, hconn, hpend])]
    exact .same rfl rfl
  · rcases afterSend_eq hs ho hattempt hsend with ⟨_, log, heq⟩ | ⟨_, _, _, _, log, _, _, _, heq⟩
    · rw [heq]
      exact .success hwired log haim hattempt
    · rw [heq]
      exact .failure hwired haim hattempt _ _ _ log

/-- The account of whatever the driver sees to. -/
theorem Accounted.seeTo {stopped : Bool} {e : Errand} (hstanding : c.Standing stopped)
    (hwired : c.Wired) (hsee : c.seeTo? ctx e = some c') : Accounted c (c.driverEntries e c') c' := by
  by_cases he : e = .turn
  · subst he
    exact .turn hstanding hwired hsee
  · rw [driverEntries_of_ne_turn he]
    obtain ⟨haudio, hsame | hping⟩ := pingsAtMost_of_seeTo? hstanding hsee he
    · exact .same haudio hsame
    · refine .of_sent (f := .ping []) hping ?_
      rw [haudio]
      exact .nil _

end Connection

namespace Bridge

/-- What is seen of the audio of a name in a move. -/
def audioEntries (id : String) (b : Bridge) (m : Move) : List AudioEntry :=
  match m, b.find? id, (b.move m).find? id with
  | .act (.call name call), some c, _ =>
    if name = id ∧ c.held then c.callEntries b.queues call else []
  | .errand _ e, some c, some c' => c.driverEntries e c'
  | _, _, _ => []

/-- Nobody fills a slot of the buffer by hand. -/
def NoSlot (id : String) (m : Move) : Prop := ∀ bytes count, m ≠ .act (.call id (.slot bytes count))

theorem NoSlot.of_not_mem {id : String} {moves : List Move}
    (h : ∀ bytes count, .act (.call id (.slot bytes count)) ∉ moves) : ∀ m ∈ moves, NoSlot id m := by
  rintro m hm bytes count rfl
  exact h bytes count hm

theorem accounted_change {b : Bridge} {c c' : Connection} {m : Move} (hm : NoSlot c.id m)
    (hc : b.find? c.id = some c) (hc' : (b.move m).find? c.id = some c')
    (hstanding : c.Standing b.queues.stopped) (hwired : c.Wired) (hidle : c.state ≠ .idle)
    (hchange : Change b c m c') :
    c.Accounted (b.audioEntries c.id m) c' := by
  cases hchange with
  | @call call held =>
    have hentries : b.audioEntries c.id (.act (.call c.id call)) = c.callEntries b.queues call := by
      simp [audioEntries, hc, held]
    have hslot : ∀ bytes count, call ≠ .slot bytes count := by
      rintro bytes count rfl
      exact hm bytes count rfl
    rw [hentries]
    refine ⟨[], ?_, Connection.account_call call hslot hwired.audio⟩
    rw [Connection.audioReceived, (Connection.CallFrame.perform c b.queues call).wire, List.append_nil,
      Connection.audioReceived]
  | unheld held =>
    simpa [audioEntries, hc, held] using Connection.Accounted.same (c := c) rfl rfl
  | other ne => simpa [audioEntries, hc, ne] using Connection.Accounted.same (c := c) rfl rfl
  | @far call =>
    obtain ⟨_, _, hfar⟩ := c.farCall_eq call
    rw [hfar]
    exact .same rfl rfl
  | takenUp =>
    obtain ⟨_, _, _, heq, _, hcases⟩ := takenUp_cases b c
    rw [heq]
    rcases hcases with rfl | ⟨_, hs, _⟩
    · exact .same rfl rfl
    · exact absurd hs hidle
  | @progress n e _ running _ _ ready =>
    have hentries : b.audioEntries c.id (.errand n e) = c.driverEntries e c' := by
      simp [audioEntries, hc, hc']
    rw [hentries]
    exact .seeTo hstanding hwired ready
  | cut => exact .same rfl rfl
  | spared quiet =>
    have hentries : b.audioEntries c.id m = [] := by
      cases m with
      | act action =>
        cases action with
        | call name call => exact absurd rfl (quiet name call)
        | _ => rfl
      | errand n e =>
        simp only [audioEntries, hc, hc']
        exact c.driverEntries_self e
      | loop | wait => rfl
    rw [hentries]
    exact .same rfl rfl

/-- The loop takes up a connection once. -/
theorem not_idle_change {b : Bridge} {c c' : Connection} {m : Move}
    (hstanding : c.Standing b.queues.stopped) (hidle : c.state ≠ .idle) (hchange : Change b c m c') :
    c'.state ≠ .idle := by
  rcases hchange.progress_or_undriven with ⟨_, _, _, running, progress⟩ | hundriven
  · intro hs
    have hstanding' := (running ▸ hstanding : c.Standing false).progress progress
    exact progress.phase_ne_absent (hstanding'.of_idle hs).1
  · rcases hundriven.state with hs | ⟨_, hs⟩ | ⟨_, hs⟩
    · exact hs ▸ hidle
    · simp [hs]
    · simp [hs]

/-- The account of a run, from some point on at which the loop has taken up the connection. -/
theorem accounted_play {id : String} (moves : List Move) (hm : ∀ m ∈ moves, NoSlot id m) {b : Bridge}
    {c : Connection} (hb : ∀ c ∈ b.roster, c.Standing b.queues.stopped ∧ c.Wired)
    (hc : b.find? id = some c) (hidle : c.state ≠ .idle) :
    ∃ c', (b.play moves).find? id = some c' ∧ c.Accounted (b.record (audioEntries id) moves) c' := by
  obtain ⟨c', hc', _, haccounted⟩ := play_kept id (audioEntries id)
    (P := fun _ c' seen => c'.state ≠ .idle ∧ c.Accounted seen c') (M := fun _ => NoSlot id)
    (fun {b m d d' seen} hm hd hd' hstanding hwired hchange h => by
      have hid := id_of_find? hd
      subst hid
      exact ⟨not_idle_change hstanding h.1 hchange,
        h.2.trans (accounted_change hm hd hd' hstanding hwired h.1 hchange)⟩) moves
    (along_of_forall hm b) hb hc [] ⟨hidle, .same rfl rfl⟩
  exact ⟨c', hc', haccounted⟩

/-- On an idle connection nothing has been sent. -/
theorem sent_of_idle {c : Connection} {stopped : Bool} (hstanding : c.Standing stopped)
    (hwired : c.Wired) (hs : c.state = .idle) : c.wire.sent = [] := by
  have habsent := (hstanding.of_idle hs).1
  exact hwired.unopened (by simp [habsent]) (by simp [habsent])

/-- When the loop takes up a connection, nothing waits in its buffer and nothing has been sent. -/
theorem takenUp_empty {config : ServiceConfig} {before : List Move} {id : String} {c c₁ : Connection}
    (hc : (play { config } before).find? id = some c) (hidle : c.state = .idle)
    (hc₁ : (play { config } (before ++ [.loop])).find? id = some c₁) (hs : c₁.state = .connecting) :
    c₁.audio.pending = [] ∧ c₁.audioReceived = [] := by
  have hb := Connection.wired_kept.play config before
  obtain ⟨hstanding, hwired⟩ := hb c (List.mem_of_find?_eq_some hc)
  have hchange : Change (play { config } before) c .loop c₁ := by
    rw [play_append] at hc₁
    exact change_of_find? (fun c hc => (hb c hc).1) hc hc₁
  have hnil := sent_of_idle hstanding hwired hidle
  cases hchange with
  | takenUp =>
    obtain ⟨_, _, _, heq, _, hcases⟩ := takenUp_cases (play { config } before) c
    rw [heq] at hs ⊢
    rcases hcases with rfl | ⟨_, _, rfl⟩
    · rw [hidle] at hs
      cases hs
    · refine ⟨AudioBuffer.pending_reset c.audio, ?_⟩
      change c.wire.sent.flatMap _ = []
      rw [hnil]
      rfl
  | spared =>
    rw [hidle] at hs
    cases hs

end Bridge

open AudioEntry in
/-- The audio that the far end has received, followed by what waits in the buffer, is that of the chunks
written since the loop took up the connection, without those that were refused or were waiting at an
overrun, at a close frame, sent or not, or for a frame of audio that could not be sent. The counts reported
with overruns add up to the bytes of those refused or waiting at an overrun. So every byte arrives once and
in order where nothing else than a frame of audio that is sent empties the buffer. -/
theorem audio_accounted (config : ServiceConfig) (before after : List Move) (id : String)
    (c c₁ : Connection) (hc : (Bridge.play { config } before).find? id = some c)
    (hidle : c.state = .idle) (hc₁ : (Bridge.play { config } (before ++ [.loop])).find? id = some c₁)
    (hs : c₁.state = .connecting)
    (hslot : ∀ bytes count, .act (.call id (.slot bytes count)) ∉ after) :
    let entries := (Bridge.play { config } (before ++ [.loop])).record (Bridge.audioEntries id) after
    let b := Bridge.play { config } (before ++ .loop :: after)
    ∃ c', b.find? id = some c' ∧
      c'.wire.sent.flatMap (·.binaryBytes) ++ c'.audio.pending = (chunksKept entries).flatten ∧
      reported entries =
        (chunksRefused entries).flatten.length + (chunksOverrun entries).flatten.length ∧
      (Lossless entries →
        c'.wire.sent.flatMap (·.binaryBytes) ++ c'.audio.pending = (chunksWritten entries).flatten ∧
        (b.queues.stopped = false → b.Settled → b.ClockReaches c'.config.profile →
          c'.state = .connected →
          c'.wire.sent.flatMap (·.binaryBytes) = (chunksWritten entries).flatten)) := by
  intro entries b
  obtain ⟨hempty, hreceived⟩ := Bridge.takenUp_empty hc hidle hc₁ hs
  obtain ⟨c', hc', received, hall, haccount⟩ := Bridge.accounted_play after (.of_not_mem hslot)
    (Connection.wired_kept.play config (before ++ [.loop])) hc₁ (by simp [hs])
  have hsplit : before ++ .loop :: after = before ++ [.loop] ++ after := by simp
  rw [← Bridge.play_append, ← hsplit] at hc'
  rw [hempty] at haccount
  rw [hreceived, List.nil_append] at hall
  subst hall
  have hkept := haccount.kept_eq
  have hreported := haccount.reported_eq
  rw [ite_self, List.nil_append] at hkept
  rw [List.length_nil, ite_self, Nat.zero_add] at hreported
  refine ⟨c', hc', hkept, hreported, fun hlossless => ?_⟩
  have hwritten := haccount.lossless_eq hlossless
  refine ⟨hwritten, fun hrunning hsettled hreach hconn => ?_⟩
  have hmem := List.mem_of_find?_eq_some hc'
  have hdriven := Bridge.isDriven_of_state hmem hrunning hreach (.inl hconn)
  have hnothing := ((hsettled.idle hrunning c' hmem).work hconn hdriven).2.1
  rw [AudioBuffer.pending_eq_nil hnothing, List.append_nil] at hwritten
  exact hwritten

/-- A connection is asked for, whose wire is to have these faults. -/
def connectAsked (faults : Faults) : List Move :=
  [.act (.faults faults),
    .act (.create "a" { sessionId := "a", host := "far", audioCapacity := 8, headerReserve := 2 } none),
    .act (.call "a" .connect)]

/-- Two chunks are written before the wire is open, of which one fits the buffer, and two more when the
first frame was sent, of which one does. -/
def overflowing : List Move :=
  [.act (.call "a" (.audio [[1, 2, 3, 4], [5, 6, 7]] none)), .wait 1, .errand 0 .dial,
    .errand 0 .turn, .act (.call "a" (.audio [[8, 9, 10, 11, 12, 13, 14], [15]] none))]

/-- The first chunk is dropped for the second, which is sent; the third is refused and the last waits. -/
theorem audio_accounted_overflowing :
    ∃ c, (Bridge.play { config := {} } (connectAsked {} ++ .loop :: overflowing)).find? "a" = some c ∧
      c.wire.sent.flatMap (·.binaryBytes) ++ c.audio.pending = [5, 6, 7, 15] := by
  have hasked : ((Bridge.play { config := {} } (connectAsked {})).find? "a").any (fun c =>
      decide (c.state = .idle)) = true := by decide +kernel
  have htaken : ((Bridge.play { config := {} } (connectAsked {} ++ [.loop])).find? "a").any (fun c =>
      decide (c.state = .connecting)) = true := by decide +kernel
  have hslot : ∀ m ∈ overflowing, ∀ bytes count, m ≠ .act (.call "a" (.slot bytes count)) := by
    simp [overflowing]
  have hentries : AudioEntry.chunksKept
      ((Bridge.play { config := {} } (connectAsked {} ++ [.loop])).record (Bridge.audioEntries "a")
        overflowing) = [[5, 6, 7], [15]] := by decide +kernel
  obtain ⟨c, hc, hidle⟩ := (Option.any_eq_true _ _).mp hasked
  obtain ⟨c₁, hc₁, hs⟩ := (Option.any_eq_true _ _).mp htaken
  obtain ⟨c', hc', hkept, _⟩ :=
    audio_accounted {} (connectAsked {}) overflowing "a" c c₁ hc (of_decide_eq_true hidle) hc₁
      (of_decide_eq_true hs) fun bytes count hmem => hslot _ hmem bytes count rfl
  rw [hentries] at hkept
  exact ⟨c', hc', hkept⟩

/-- Nothing can be sent on the wire. -/
def unsendable : Faults := { failAfter := some (0, "broken") }

/-- A chunk is written on the open connection, which is then closed. -/
def closingWritten : List Move :=
  [.wait 1, .errand 0 .dial, .act (.call "a" (.audio [[1, 2, 3]] none)), .act (.call "a" .close), .loop,
    .errand 0 .turn]

/-- The chunks that wait are lost also where the close frame cannot be sent: nothing is refused, overrun or
lost with a frame of audio here and no close frame is sent, and the chunk is neither received nor waiting
at rest. -/
theorem audio_lost_without_close_frame :
    let b := Bridge.play { config := {} } (connectAsked unsendable ++ .loop :: closingWritten)
    b.Settled ∧
      (Bridge.play { config := {} } (connectAsked unsendable ++ [.loop])).record
        (Bridge.audioEntries "a") closingWritten = [.wrote [1, 2, 3] (.written 3), .closeFailed] ∧
      ∃ c, b.find? "a" = some c ∧ .close ∉ c.wire.sent ∧
        c.wire.sent.flatMap (·.binaryBytes) ++ c.audio.pending ≠ [1, 2, 3] := by
  have hlost : ((Bridge.play { config := {} } (connectAsked unsendable ++ .loop ::
      closingWritten)).find? "a").any (fun c => decide (.close ∉ c.wire.sent ∧
        c.wire.sent.flatMap (·.binaryBytes) ++ c.audio.pending ≠ [1, 2, 3])) = true := by decide +kernel
  obtain ⟨c, hc, hlost⟩ := (Option.any_eq_true _ _).mp hlost
  exact ⟨by decide +kernel, by decide +kernel, c, hc, of_decide_eq_true hlost⟩

end VoiceBridge
