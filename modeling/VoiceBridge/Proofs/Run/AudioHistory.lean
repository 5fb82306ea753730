import VoiceBridge.Proofs.Audio.History
import VoiceBridge.Proofs.Run.Outbox

/-!
# The audio of a run

The moves of a run leave marks in the history of a connection's audio: calls store bytes or overrun, and
the loop and the driver either leave the buffer alone or empty it. The frames of audio on the wire and
the bytes in the buffer are those that the history gives (`replay_run`).
-/

namespace VoiceBridge

/-- The payload of a frame of audio. An empty one is a finish signal. -/
def OutboundFrame.audio? : OutboundFrame → Option Bytes
  | .binary bytes => if bytes.isEmpty then none else some bytes
  | _ => none

theorem OutboundFrame.audio?_of_isQueued {f : OutboundFrame} (h : f.isQueued = true) :
    f.audio? = none := by
  cases f with
  | text s => rfl
  | binary bytes => exact if_pos h
  | ping bytes => cases h
  | close => cases h

namespace Connection

variable {c c' : Connection} {q : Requests}

/-- The frames of audio that the far end received. -/
def audioFrames (c : Connection) : List Bytes := c.wire.sent.filterMap (·.audio?)

/-! ### Marks of calls -/

def chunkMarks (c : Connection) : List Bytes → List (AudioMark UInt8)
  | [] => []
  | chunk :: rest => c.audio.writeMarks chunk ++ (c.writeAudio chunk).2.chunkMarks rest

/-- The marks of a stream, which ends when the connection is no longer connected. -/
def streamMarks (c : Connection) (q : Requests) (closeAfter : Option Nat) (r : StreamReport) :
    List Bytes → List (AudioMark UInt8)
  | [] => []
  | frame :: rest =>
    if !c.isConnected then []
    else
      let (r, d, q) := c.streamFrame q r frame
      let (d, q) := if closeAfter = some r.frames then (d.close q).2 else (d, q)
      c.audio.writeMarks frame ++ d.streamMarks q closeAfter r rest

/-- What a call does to the audio. -/
def audioMarks (c : Connection) (q : Requests) : Call → List (AudioMark UInt8)
  | .audio chunks _ => c.chunkMarks chunks
  | .slot bytes count =>
    [.stored ((c.commitSlot bytes count).2.audio.pending.drop c.audio.pending.length)]
  | .stream settings pcm closeAfter => c.streamMarks q closeAfter {} (settings.cut pcm)
  | _ => []

theorem audio_writeAudio (c : Connection) (chunk : Bytes) :
    (c.writeAudio chunk).2.audio = (c.audio.write chunk).2 := by
  obtain ⟨_, _, heq⟩ := writeAudio_effect c chunk
  rw [heq]

theorem audio_releaseAudio (c : Connection) (q : Requests) :
    (c.releaseAudio q).1.audio = c.audio := by
  obtain ⟨_, heq⟩ := releaseAudio_effect c q
  rw [heq]

theorem audio_close (c : Connection) (q : Requests) : (c.close q).2.1.audio = c.audio := by
  obtain ⟨_, _, heq⟩ := close_effect c q
  rw [heq]

theorem audio_finish (c : Connection) (q : Requests) : (c.finish q).2.1.audio = c.audio := by
  rcases finish_effect c q with ⟨_, heq⟩ | ⟨_, _, heq⟩ <;> rw [heq]

theorem audio_queueText (c : Connection) (s : String) (q : Requests) :
    (c.queueText s q).2.1.audio = c.audio := by
  rcases queueText_effect c s q with ⟨_, heq⟩ | ⟨_, _, heq⟩ <;> rw [heq]

theorem replay_chunkMarks (chunks : List Bytes) {c : Connection} (h : c.audio.IsSound) :
    AudioMark.replay c.audio.pending (c.chunkMarks chunks) =
      ([], (c.writeChunks chunks).2.audio.pending) := by
  induction chunks generalizing c with
  | nil => rfl
  | cons chunk rest ih =>
    have hwrite := AudioBuffer.replay_writeMarks h chunk
    have haudio := audio_writeAudio c chunk
    have hrest := ih (c := (c.writeAudio chunk).2) (haudio ▸ h.write chunk)
    rw [haudio] at hrest
    rw [chunkMarks, AudioMark.replay_append, hwrite]
    dsimp only
    rw [hrest]
    rfl

theorem replay_streamMarks (closeAfter : Option Nat) (frames : List Bytes) {c : Connection}
    {q : Requests} (r : StreamReport) (h : c.audio.IsSound) :
    AudioMark.replay c.audio.pending (c.streamMarks q closeAfter r frames) =
      ([], (c.stream q closeAfter r frames).2.1.audio.pending) := by
  induction frames generalizing c q r with
  | nil => rfl
  | cons frame rest ih =>
    have hwrite := AudioBuffer.replay_writeMarks h frame
    have haudio : (c.streamFrame q r frame).2.1.audio = (c.audio.write frame).2 :=
      (audio_releaseAudio (c.writeAudio frame).2 q).trans (audio_writeAudio c frame)
    have hsound : (c.streamFrame q r frame).2.1.audio.IsSound := haudio ▸ h.write frame
    unfold streamMarks stream
    split
    · rfl
    · dsimp only
      rw [AudioMark.replay_append, hwrite]
      dsimp only
      split
      · have hclose := audio_close (c.streamFrame q r frame).2.1 (c.streamFrame q r frame).2.2
        rw [← haudio, ← hclose, ih _ (hclose ▸ hsound)]
        rfl
      · rw [← haudio, ih _ hsound]
        rfl

/-- What a call leaves in the buffer is what its marks say, and it sends nothing. -/
theorem replay_audioMarks (call : Call) (h : c.audio.IsSound) :
    AudioMark.replay c.audio.pending (c.audioMarks q call) =
      ([], (c.perform q call).2.1.audio.pending) := by
  have hsame : ∀ {d : Connection}, d.audio = c.audio →
      AudioMark.replay c.audio.pending [] = ([], d.audio.pending) := by
    intro d hd
    rw [hd]
    rfl
  cases call with
  | connect =>
    obtain ⟨_, heq⟩ := connect_effect c q
    exact hsame (d := (c.connect q).2.1) (by rw [heq])
  | close => exact hsame (audio_close c q)
  | closeWithCompletion =>
    refine hsame (d := (c.closeWithCompletion q).2.1) ?_
    have hclose := audio_close c q
    unfold closeWithCompletion
    split
    · rename_i heq
      rw [heq] at hclose
      exact hclose
    · exact hclose
  | finish => exact hsame (audio_finish c q)
  | text s => exact hsame (audio_queueText c s q)
  | audio chunks text =>
    refine (replay_chunkMarks chunks h).trans ?_
    have hend : (c.perform q (.audio chunks text)).2.1.audio = (c.writeChunks chunks).2.audio := by
      cases text with
      | none => exact audio_releaseAudio _ q
      | some s => exact (audio_releaseAudio _ _).trans (audio_queueText _ s q)
    rw [hend]
  | slot bytes count =>
    have hend : (c.perform q (.slot bytes count)).2.1.audio = (c.commitSlot bytes count).2.audio :=
      audio_releaseAudio _ q
    have hcommit : c.audio.pending <+: (c.commitSlot bytes count).2.audio.pending :=
      AudioBuffer.pending_commit h bytes _
    rw [hend]
    exact congrArg (Prod.mk []) (List.prefix_append_drop hcommit).symm
  | stream settings pcm closeAfter => exact replay_streamMarks closeAfter _ {} h
  | inspect => rfl
  | target => rfl
  | drop =>
    obtain ⟨_, heq⟩ := dropHandle_effect c
    exact hsame (d := c.dropHandle) (by rw [heq])

/-! ### Marks of the loop and the driver -/

/-- What the loop or the driver did to the audio: the wire was opened, or the buffer was emptied. -/
def driverMarks (c c' : Connection) : List (AudioMark UInt8) :=
  if !c.wire.opened && c'.wire.opened then [.opened]
  else if c.audio.hasPending && !c'.audio.hasPending then
    [if c'.audioFrames = c.audioFrames then .lost else .sent]
  else []

/-- The marks tell what was sent between two states of a connection and what is left. -/
def Marked (c : Connection) (marks : List (AudioMark UInt8)) (c' : Connection) : Prop :=
  c'.audioFrames = c.audioFrames ++ (AudioMark.replay c.audio.pending marks).1 ∧
    c'.audio.pending = (AudioMark.replay c.audio.pending marks).2

theorem Marked.refl : Marked c [] c := ⟨(List.append_nil _).symm, rfl⟩

theorem Marked.trans {c₁ c₂ c₃ : Connection} {early late : List (AudioMark UInt8)}
    (h₁ : Marked c₁ early c₂) (h₂ : Marked c₂ late c₃) : Marked c₁ (early ++ late) c₃ := by
  obtain ⟨hframes₁, hpending₁⟩ := h₁
  obtain ⟨hframes₂, hpending₂⟩ := h₂
  rw [hpending₁] at hframes₂ hpending₂
  rw [Marked, AudioMark.replay_append]
  exact ⟨by rw [hframes₂, hframes₁, List.append_assoc], hpending₂⟩

/-- The audio stays as it is. -/
theorem Marked.same (ha : c'.audio = c.audio) (hf : c'.audioFrames = c.audioFrames) :
    Marked c (driverMarks c c') c' := by
  have hnothing : (c.audio.hasPending && !c'.audio.hasPending) = false := by simp [ha]
  rw [Marked, ha, hf, driverMarks, hnothing]
  split <;> exact ⟨(List.append_nil _).symm, rfl⟩

/-- What waits is dropped. -/
theorem Marked.emptied (ha : c'.audio.hasPending = false) (ho : c'.wire.opened = c.wire.opened)
    (hf : c'.audioFrames = c.audioFrames) : Marked c (driverMarks c c') c' := by
  have hopen : (!c.wire.opened && c'.wire.opened) = false := by simp [ho]
  have hnil := AudioBuffer.pending_eq_nil ha
  rw [Marked, driverMarks, hopen, if_neg Bool.false_ne_true, if_pos hf, hf, ha, hnil]
  cases hp : c.audio.hasPending with
  | true => exact ⟨(List.append_nil _).symm, rfl⟩
  | false => exact ⟨(List.append_nil _).symm, (AudioBuffer.pending_eq_nil hp).symm⟩

/-- What waits is sent. -/
theorem Marked.sent (hp : c.audio.hasPending = true) (ha : c'.audio.hasPending = false)
    (ho : c'.wire.opened = c.wire.opened) (hf : c'.audioFrames = c.audioFrames ++ [c.audio.pending]) :
    Marked c (driverMarks c c') c' := by
  have hopen : (!c.wire.opened && c'.wire.opened) = false := by simp [ho]
  have hnil := AudioBuffer.pending_eq_nil ha
  have hne : ¬ c'.audioFrames = c.audioFrames := by simp [hf]
  rw [Marked, driverMarks, hopen, if_neg Bool.false_ne_true, if_neg hne, hp, ha, hf]
  exact ⟨rfl, hnil⟩

theorem audioFrames_of_sent {f : OutboundFrame} (hsent : c'.wire.sent = c.wire.sent ++ [f]) :
    c'.audioFrames = c.audioFrames ++ f.audio?.toList := by
  rw [audioFrames, hsent, audioFrames, List.filterMap_append]
  cases hf : f.audio? <;> simp [hf]

theorem Marked.progress {ctx : LoopContext} (hwired : c.Wired) (hp : Progress ctx c c') :
    Marked c (driverMarks c c') c' := by
  cases hp with
  | sent log phase attempt =>
    cases attempt with
    | text _ _ _ outbox =>
      have hf := hwired.outbox _ (by rw [outbox]; exact List.mem_cons_self)
      refine .same rfl ((audioFrames_of_sent rfl).trans ?_)
      rw [OutboundFrame.audio?_of_isQueued hf]
      exact List.append_nil _
    | close =>
      refine .emptied (AudioBuffer.hasPending_reset _) rfl ?_
      exact (audioFrames_of_sent rfl).trans (List.append_nil _)
    | audio _ _ _ _ _ pending =>
      refine .sent pending (AudioBuffer.hasPending_reset _) rfl ?_
      refine (audioFrames_of_sent rfl).trans ?_
      have hne := AudioBuffer.pending_ne_nil hwired.audio pending
      rw [OutboundFrame.audio?, if_neg (by simpa using hne)]
      rfl
    | ping =>
      refine .same rfl ((audioFrames_of_sent rfl).trans ?_)
      exact List.append_nil _
  | lost log phase attempt =>
    cases attempt with
    | text | ping => exact .same rfl rfl
    | close | audio => exact .emptied (AudioBuffer.hasPending_reset _) rfl rfl
  | _ => exact .same rfl rfl

end Connection

namespace Bridge

/-- What a move does to the audio of a name. -/
def audioMarks (id : String) (b : Bridge) (m : Move) : List (AudioMark UInt8) :=
  match m, b.find? id, (b.move m).find? id with
  | .act (.call name call), some c, _ =>
    if name = id ∧ c.held then c.audioMarks b.queues call else []
  | .loop, some c, some c' | .errand _ _, some c, some c' => c.driverMarks c'
  | _, _, _ => []

/-- A round of the loop sends nothing. It drops what waits when it takes up a request to connect. -/
theorem takenUp_audio (b : Bridge) (c : Connection) :
    (b.takenUp c).wire.sent = c.wire.sent ∧ (b.takenUp c).wire.opened = c.wire.opened ∧
      ((b.takenUp c).audio = c.audio ∨ (b.takenUp c).audio.hasPending = false) := by
  obtain ⟨d, _, _, heq, _, hcases⟩ := takenUp_cases b c
  rw [heq]
  rcases hcases with rfl | ⟨_, _, rfl⟩
  · exact ⟨rfl, rfl, .inl rfl⟩
  · exact ⟨rfl, rfl, .inr (AudioBuffer.hasPending_reset c.audio)⟩

theorem marked_change {b : Bridge} {c c' : Connection} {m : Move} (hc : b.find? c.id = some c)
    (hc' : (b.move m).find? c.id = some c') (hwired : c.Wired) (hchange : Change b c m c') :
    c.Marked (b.audioMarks c.id m) c' := by
  cases hchange with
  | @call call held =>
    have hmarks : b.audioMarks c.id (.act (.call c.id call)) = c.audioMarks b.queues call := by
      simp [audioMarks, hc, held]
    rw [hmarks, Connection.Marked, Connection.replay_audioMarks call hwired.audio, List.append_nil]
    refine ⟨?_, rfl⟩
    rw [Connection.audioFrames, (Connection.CallFrame.perform c b.queues call).wire]
    rfl
  | unheld held => simpa [audioMarks, hc, held] using Connection.Marked.refl
  | other ne => simpa [audioMarks, hc, ne] using Connection.Marked.refl
  | @far call =>
    obtain ⟨_, _, hfar⟩ := c.farCall_eq call
    rw [hfar]
    exact Connection.Marked.refl
  | takenUp =>
    have hmarks : b.audioMarks c.id .loop = c.driverMarks (b.takenUp c) := by
      simp [audioMarks, hc, hc']
    obtain ⟨hsent, hopen, haudio⟩ := takenUp_audio b c
    have hframes : (b.takenUp c).audioFrames = c.audioFrames := by
      rw [Connection.audioFrames, hsent, Connection.audioFrames]
    rw [hmarks]
    rcases haudio with hsame | hnothing
    · exact .same hsame hframes
    · exact .emptied hnothing hopen hframes
  | @progress n e c' running progress =>
    have hmarks : b.audioMarks c.id (.errand n e) = c.driverMarks c' := by
      simp [audioMarks, hc, hc']
    rw [hmarks]
    exact .progress hwired progress
  | cut => exact Connection.Marked.refl
  | spared quiet =>
    have hmarks : b.audioMarks c.id m = c.driverMarks c ∨ b.audioMarks c.id m = [] := by
      cases m with
      | act action =>
        cases action with
        | call name call => exact absurd rfl (quiet name call)
        | _ => exact .inr rfl
      | loop | errand n e => exact .inl (by simp [audioMarks, hc, hc'])
      | wait nanos => exact .inr rfl
    rcases hmarks with hmarks | hmarks <;> rw [hmarks]
    · exact .same rfl rfl
    · exact .refl

/-- What the marks of a play tell of the audio of a name. -/
theorem marked_play {id : String} (moves : List Move) {b : Bridge} {c : Connection}
    (hb : ∀ c ∈ b.roster, c.Standing b.queues.stopped ∧ c.Wired) (hc : b.find? id = some c) :
    ∃ c', (b.play moves).find? id = some c' ∧ c.Marked (b.record (audioMarks id) moves) c' := by
  exact exists_play_of_change (audioMarks id) [] (P := fun c' marks => c.Marked marks c')
    (fun {b m d d' marks} hd hd' _ hwired hchange h => by
      have hid := id_of_find? hd
      subst hid
      exact h.trans (marked_change hd hd' hwired hchange)) moves hb hc .refl

theorem recorded_audioMarks (id : String) : Recorded id (audioMarks id) fun c marks =>
    AudioMark.replay [] marks = (c.audioFrames, c.audio.pending) where
  unnamed {b m} hnone := by
    unfold audioMarks
    split
    · simp_all
    · simp_all
    · simp_all
    · rfl
  create hcreate := by
    obtain ⟨audio, haudio, rfl⟩ := Connection.create_eq hcreate
    have hempty : (audio.withLowSpace _).pending = [] := AudioBuffer.pending_of_create haudio
    exact Prod.ext rfl hempty.symm
  change {b m c c' marks} hc hc' _ hwired hchange h := by
    have hid := id_of_find? hc
    subst hid
    obtain ⟨hframes, hpending⟩ := marked_change hc hc' hwired hchange
    rw [AudioMark.replay_append, h, ← hframes, ← hpending]

/-- The marks of a whole run tell which frames of audio were sent and what waits. -/
theorem replay_run (config : ServiceConfig) (moves : List Move) {id : String} {c : Connection}
    (hc : (play { config } moves).find? id = some c) :
    AudioMark.replay [] (record (audioMarks id) { config } moves) =
      (c.audioFrames, c.audio.pending) :=
  (recorded_audioMarks id).play config moves hc

end Bridge

end VoiceBridge
