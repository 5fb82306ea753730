import VoiceBridge.Proofs.Run.AudioAccount

/-!
# Audio around the pick-up of a request

After `connect` the request waits in a queue until the loop takes it up, and nobody is told when that
happens. An audio cycle begins there: the buffer is emptied without any notice. So it makes a difference
on which side of the pick-up a chunk is written: behind it the chunk waits for the wire to be open, ahead
of it the chunk is stored like any other and lost. Nothing else differs (`takenUp_audio_eq`).
-/

namespace VoiceBridge

namespace Connection

variable {c c' : Connection} {q : Requests}

/-! ### Chunks that fit -/

theorem writeAudio_of_fits {chunk : Bytes} (hfits : chunk.length ≤ c.audio.space) :
    c.writeAudio chunk = (.written chunk.length, { c with audio := c.audio.append chunk }) := by
  simp [writeAudio, AudioBuffer.write, hfits]

/-- Chunks that fit are stored one behind the other. -/
theorem writeChunks_of_fits (chunks : List Bytes) (h : c.audio.IsSound)
    (hfits : chunks.flatten.length ≤ c.audio.space) :
    ∃ audio, c.writeChunks chunks = (chunks.map fun chunk => .written chunk.length, { c with audio }) ∧
      audio.pending = c.audio.pending ++ chunks.flatten := by
  induction chunks generalizing c with
  | nil => exact ⟨c.audio, rfl, (List.append_nil _).symm⟩
  | cons chunk rest ih =>
    rw [List.flatten_cons, List.length_append] at hfits
    have hchunk : chunk.length ≤ c.audio.space := Nat.le_trans (Nat.le_add_right _ _) hfits
    have hsound : (c.audio.append chunk).IsSound := h.append hchunk
    have hspace : (c.audio.append chunk).space = c.audio.space - chunk.length := by
      simp [AudioBuffer.space, AudioBuffer.append, Nat.sub_add_eq]
    obtain ⟨audio, hrest, hpending⟩ := ih (c := { c with audio := c.audio.append chunk }) hsound (by
      rw [hspace]
      omega)
    refine ⟨audio, ?_, ?_⟩
    · rw [writeChunks, writeAudio_of_fits hchunk]
      dsimp only
      rw [hrest]
      rfl
    · rw [hpending, AudioBuffer.pending_append h, List.flatten_cons, List.append_assoc]

/-- To write chunks that fit, before the wire is open, fills the buffer and does nothing else. -/
theorem audio_of_fits (chunks : List Bytes) (h : c.audio.IsSound)
    (hfits : chunks.flatten.length ≤ c.audio.space) (hs : c.state ≠ .connected) :
    ∃ audio, (c.perform q (.audio chunks none)).2 = ({ c with audio }, q) ∧
      audio.pending = c.audio.pending ++ chunks.flatten ∧
      c.callEntries q (.audio chunks none) =
        chunks.map fun chunk => .wrote chunk (.written chunk.length) := by
  obtain ⟨audio, hwrite, hpending⟩ := writeChunks_of_fits chunks h hfits
  refine ⟨audio, ?_, hpending, ?_⟩
  · have hrelease : ({ c with audio } : Connection).releaseAudio q = ({ c with audio }, q) := by
      simp [releaseAudio, isConnected, hs]
    change (c.writeChunks chunks).2.releaseAudio q = _
    rw [hwrite, hrelease]
  · change List.zipWith _ chunks (c.writeChunks chunks).1 = _
    rw [hwrite, List.zipWith_map_right, List.zipWith_self]

/-! ### A request stands -/

theorem connectRequested_connect (h : (c.connect q).1 = .ok ()) :
    (c.connect q).2.1.connectRequested = true := by
  unfold Connection.connect at h ⊢
  split at h
  · cases h
  · rename_i hs
    rw [if_neg hs]
    split at h
    · rfl
    · cases h

theorem connectRequested_perform (call : Call) (hrunning : q.stopped = false)
    (h : c.connectRequested = true) : (c.perform q call).2.1.connectRequested = true := by
  have hkept : KeptByCalls (fun c q => q.stopped = false ∧ c.connectRequested = true)
      (fun c q => q.stopped = false ∧ c.connectRequested = true) := by
    refine keptByCalls_of_requests (fun hr _ hq h => ⟨hq.trans h.1, hr.trans h.2⟩) (fun {c q} h => ?_)
      fun {c q} h => ?_
    · refine ⟨(CallFrame.connect c q).stopped.trans h.1, ?_⟩
      unfold Connection.connect
      rw [enqueue_of_running h.1]
      split
      · exact h.2
      · rfl
    · obtain ⟨_, _, heq⟩ := close_effect c q
      refine ⟨(CallFrame.close c q).stopped.trans h.1, ?_⟩
      rw [heq]
      exact h.2
  exact (hkept.perform call ⟨hrunning, h⟩).2

theorem Progress.connectRequested {ctx : LoopContext} (h : Progress ctx c c') :
    c'.connectRequested = c.connectRequested := by
  cases h with
  | sent log phase attempt => cases attempt <;> rfl
  | lost log phase attempt => cases attempt <;> rfl
  | _ => rfl

end Connection

namespace Bridge

variable {b : Bridge} {c c' : Connection} {m : Move}

theorem connectRequested_change (hrunning : b.queues.stopped = false) (h : c.connectRequested = true)
    (hchange : Change b c m c') : c'.connectRequested = true := by
  cases hchange with
  | @call call => exact Connection.connectRequested_perform call hrunning h
  | @far call =>
    obtain ⟨_, _, hfar⟩ := c.farCall_eq call
    rw [hfar]
    exact h
  | takenUp =>
    obtain ⟨_, _, _, heq, _, rfl | ⟨_, _, rfl⟩⟩ := takenUp_cases b c <;> rw [heq] <;> exact h
  | progress _ progress => exact progress.connectRequested.trans h
  | unheld | other | cut | spared => exact h

/-- A request to connect stands as long as the service runs. -/
theorem connectRequested_play {id : String} (moves : List Move) {b : Bridge} {c c' : Connection}
    (hb : ∀ c ∈ b.roster, c.Standing b.queues.stopped) (hc : b.find? id = some c)
    (h : c.connectRequested = true) (hrunning : (b.play moves).queues.stopped = false)
    (hc' : (b.play moves).find? id = some c') : c'.connectRequested = true := by
  induction moves generalizing b c with
  | nil =>
    rw [play_nil, hc] at hc'
    cases hc'
    exact h
  | cons m moves ih =>
    rw [play_cons] at hrunning hc'
    obtain ⟨c₁, hc₁, hchange⟩ := find?_move_of_some hb hc m
    have hnow := running_of_move (running_of_play hrunning)
    exact ih (Connection.standing_kept.move hb m) hc₁ (connectRequested_change hnow h hchange) hrunning hc'

/-! ### The pick-up -/

/-- A request that is taken up: an audio cycle begins, a driver sets out, and a request to write is
settled. -/
theorem takenUp_of_asked (hasked : c.id ∈ b.queues.connects) (ha : c.isAlive = true)
    (hs : c.state = .idle) :
    b.takenUp c = { b.dialled c with
      writeQueued := if c.id ∈ b.queues.writes then false else c.writeQueued } := by
  have halive : (b.dialled c).isAlive = true := by simp [dialled, Connection.isAlive, Connection.isDriven]
  have hdisconnect : takeDisconnect (b.dialled c) = b.dialled c := by
    simp [takeDisconnect, dialled]
  have hwrite : takeWrite (b.dialled c) = { b.dialled c with writeQueued := false } := by
    rw [takeWrite_eq, halive]
    simp [dialled, Connection.isConnected]
  have hid : (b.dialled c).id = c.id := rfl
  unfold takenUp
  dsimp only
  rw [if_pos hasked, takeConnect_of_idle ha hs, hdisconnect, ite_self, hid]
  split
  · exact hwrite
  · rfl

/-- Whatever is in the buffer ahead of the pick-up, it only makes a difference to the buffer, which is
emptied. -/
theorem takenUp_audio_eq (hasked : c.id ∈ b.queues.connects) (ha : c.isAlive = true)
    (hs : c.state = .idle) (audio : AudioBuffer) :
    b.takenUp { c with audio } = { b.takenUp c with audio := audio.beginCycle } := by
  have hahead : b.takenUp { c with audio } = { b.dialled { c with audio } with
      writeQueued := if c.id ∈ b.queues.writes then false else c.writeQueued } :=
    takenUp_of_asked hasked ha hs
  rw [hahead, takenUp_of_asked hasked ha hs]
  rfl

theorem move_loop_of_running (hrunning : b.queues.stopped = false) : b.move .loop = b.loopRound := by
  simp [move, hrunning]

/-- To write chunks that fit, before the wire is open, fills the buffer and does nothing else. -/
theorem move_audio_of_fits {id : String} {chunks : List Bytes} (hc : b.find? id = some c)
    (hheld : c.held = true) (h : c.audio.IsSound) (hfits : chunks.flatten.length ≤ c.audio.space)
    (hs : c.state ≠ .connected) :
    ∃ audio, b.move (.act (.call id (.audio chunks none))) = b.put id { c with audio } b.queues ∧
      (b.move (.act (.call id (.audio chunks none)))).find? id = some { c with audio } ∧
      audio.pending = c.audio.pending ++ chunks.flatten ∧
      b.audioEntries id (.act (.call id (.audio chunks none))) =
        chunks.map fun chunk => .wrote chunk (.written chunk.length) := by
  obtain ⟨audio, hperform, hpending, htold⟩ := c.audio_of_fits (q := b.queues) chunks h hfits hs
  refine ⟨audio, ?_, ?_, hpending, ?_⟩
  · rw [move_act, act_call, hc]
    dsimp only
    rw [if_pos hheld, hperform]
  · rw [find?_call_held hc hheld, hperform]
  · simp only [audioEntries, hc, hheld, and_self, if_true]
    exact htold

/-- Chunks are written on either side of the pick-up. -/
theorem exists_around_pickup {id : String} {chunks : List Bytes} (hc : b.find? id = some c)
    (hheld : c.held = true) (hs : c.state = .idle) (h : c.audio.IsSound)
    (hfits : chunks.flatten.length ≤ c.audio.space) (hrunning : b.queues.stopped = false)
    (hwake : b.queues.wake = true) (hasked : c.id ∈ b.queues.connects) :
    let write := Move.act (.call id (.audio chunks none))
    let told := chunks.map fun chunk => AudioEntry.wrote chunk (.written chunk.length)
    (b.move .loop).audioEntries id write = told ∧ b.audioEntries id write = told ∧
      ∃ e l, ((b.move .loop).move write).find? id = some e ∧
        ((b.move write).move .loop).find? id = some l ∧
        ((b.move write).move .loop).queues = ((b.move .loop).move write).queues ∧
        l = { e with audio := l.audio } ∧ e.state = .connecting ∧ e.wire.sent = c.wire.sent ∧
        e.overrunNotice = false ∧ e.audio.pending = chunks.flatten ∧ l.audio.pending = [] := by
  intro write told
  have halive : c.isAlive = true := by simp [Connection.isAlive, hheld]
  have hloop : (b.move .loop).find? id = some (b.takenUp c) := by
    rw [move_loop_of_running hrunning, find?_loopRound hwake, hc, Option.map_some]
  obtain ⟨audio₂, hmove₂, hfind₂, _, htold₂⟩ := move_audio_of_fits hc hheld h hfits (by simp [hs])
  have hqueues₂ : (b.move write).queues = b.queues := by rw [hmove₂]; rfl
  have htaken₂ : (b.move write).takenUp = b.takenUp := by rw [hmove₂]; rfl
  have hlate : ((b.move write).move .loop).find? id =
      some { b.takenUp c with audio := audio₂.beginCycle } := by
    rw [move_loop_of_running (hqueues₂ ▸ hrunning), find?_loopRound (hqueues₂ ▸ hwake), hfind₂, htaken₂,
      Option.map_some, takenUp_audio_eq hasked halive hs]
  have hqueues : ((b.move write).move .loop).queues = (b.move .loop).queues := by
    rw [queues_move_loop (hqueues₂ ▸ hrunning) (hqueues₂ ▸ hwake), queues_move_loop hrunning hwake,
      hqueues₂]
  -- Taken up, the connection has all the room of its buffer.
  rw [takenUp_of_asked hasked halive hs] at hloop hlate
  have hroom : chunks.flatten.length ≤ c.audio.beginCycle.space :=
    Nat.le_trans hfits (Nat.sub_le_sub_left h.reserve_le _)
  obtain ⟨audio₁, hmove₁, hfind₁, hpending₁, htold₁⟩ :=
    move_audio_of_fits hloop hheld h.beginCycle hroom (by simp [dialled])
  refine ⟨htold₁, htold₂, _, _, hfind₁, hlate, ?_, rfl, rfl, rfl, rfl, ?_,
    AudioBuffer.pending_reset audio₂⟩
  · rw [hqueues, hmove₁]
    rfl
  · exact hpending₁.trans (congrArg (· ++ _) (AudioBuffer.pending_reset c.audio))

/-- A held connection whose `connect` was accepted is asked for, and the loop is awake. -/
theorem asked_of_connect {config : ServiceConfig} {asking waiting : List Move} {id : String}
    {c₀ c : Connection} (hc₀ : (play { config } asking).find? id = some c₀) (hheld₀ : c₀.held = true)
    (hok : (c₀.connect (play { config } asking).queues).1 = .ok ())
    (hc : (play { config } (asking ++ .act (.call id .connect) :: waiting)).find? id = some c)
    (hrunning : (play { config } (asking ++ .act (.call id .connect) :: waiting)).queues.stopped = false)
    (hheld : c.held = true) (hs : c.state = .idle) :
    (play { config } (asking ++ .act (.call id .connect) :: waiting)).queues.wake = true ∧
      c.id ∈ (play { config } (asking ++ .act (.call id .connect) :: waiting)).queues.connects := by
  have hvigilant := vigilant_play config _ hrunning
  have hr : c.connectRequested = true := by
    rw [play_append, play_cons] at hc hrunning
    have hb := Connection.standing_kept.move (Connection.standing_kept.play config asking)
    exact connectRequested_play waiting (hb _) (find?_call_held hc₀ hheld₀ .connect)
      (Connection.connectRequested_connect hok) hrunning hc
  have hasked := (hvigilant.watched id c hc).2.1.connects hs hr hheld
  exact ⟨hvigilant.heard (.inl (List.ne_nil_of_mem hasked)), hasked⟩

end Bridge

open AudioEntry in
/-- A connection whose `connect` was accepted waits for its pick-up, and chunks are written that fit its
buffer: in one run behind the pick-up, in another one ahead of it. Both times all are reported as stored,
and afterwards the connection differs only in the buffer, where the chunks wait in the first run and
nothing waits in the second. In the first run they arrive, unless what empties the buffer next loses them,
and in the second they never do. So where nothing is lost or waits in the end and the same is written later
on, the far end receives the same in both runs only if the chunks have no bytes. -/
theorem audio_around_pickup (config : ServiceConfig) (asking waiting after : List Move) (id : String)
    (chunks : List Bytes) (c₀ c : Connection)
    (hc₀ : (Bridge.play { config } asking).find? id = some c₀) (hheld₀ : c₀.held = true)
    (hok : (c₀.connect (Bridge.play { config } asking).queues).1 = .ok ())
    (hc : (Bridge.play { config } (asking ++ .act (.call id .connect) :: waiting)).find? id = some c)
    (hrunning : (Bridge.play { config }
      (asking ++ .act (.call id .connect) :: waiting)).queues.stopped = false)
    (hheld : c.held = true) (hidle : c.state = .idle) (hfits : chunks.flatten.length ≤ c.audio.space)
    (hslot : ∀ bytes count, .act (.call id (.slot bytes count)) ∉ after) :
    let before := asking ++ .act (.call id .connect) :: waiting
    let write := Move.act (.call id (.audio chunks none))
    let told := chunks.map fun chunk => wrote chunk (.written chunk.length)
    let early := Bridge.play { config } (before ++ [.loop, write])
    let late := Bridge.play { config } (before ++ [write, .loop])
    let earlier := early.record (Bridge.audioEntries id) after
    let later := late.record (Bridge.audioEntries id) after
    (Bridge.play { config } (before ++ [.loop])).audioEntries id write = told ∧
    (Bridge.play { config } before).audioEntries id write = told ∧
    (∃ e l, early.find? id = some e ∧ late.find? id = some l ∧ late.queues = early.queues ∧
      l = { e with audio := l.audio } ∧ e.state = .connecting ∧ e.overrunNotice = false ∧
      e.audio.pending = chunks.flatten ∧ l.audio.pending = []) ∧
    ∃ e l, (early.play after).find? id = some e ∧ (late.play after).find? id = some l ∧
      e.audioReceived ++ e.audio.pending =
        (if loses (fate? earlier) then [] else chunks.flatten) ++ (chunksKept earlier).flatten ∧
      l.audioReceived ++ l.audio.pending = (chunksKept later).flatten ∧
      (Lossless earlier → Lossless later → chunksWritten earlier = chunksWritten later →
        e.audio.pending = [] → l.audio.pending = [] →
          (l.audioReceived = e.audioReceived ↔ chunks.flatten = [])) := by
  intro before write told early late earlier later
  obtain ⟨hstanding, hwired⟩ :=
    Connection.wired_kept.play config before c (List.mem_of_find?_eq_some hc)
  obtain ⟨hwake, hasked⟩ := Bridge.asked_of_connect hc₀ hheld₀ hok hc hrunning hheld hidle
  obtain ⟨htold₁, htold₂, e, l, he, hl, hqueues, heq, hstate, hsent, hnotice, hwaits, hnone⟩ :=
    Bridge.exists_around_pickup hc hheld hidle hwired.audio hfits hrunning hwake hasked
  have hearly : early = ((Bridge.play { config } before).move .loop).move write :=
    Bridge.play_append _ before [.loop, write]
  have hlate : late = ((Bridge.play { config } before).move write).move .loop :=
    Bridge.play_append _ before [write, .loop]
  rw [← hearly] at he hqueues
  rw [← hlate] at hl hqueues
  have hm := Bridge.NoSlot.of_not_mem hslot
  have hnothing : e.audioReceived = [] ∧ l.audioReceived = [] := by
    rw [heq, Connection.audioReceived, Connection.audioReceived, hsent,
      Bridge.sent_of_idle hstanding hwired hidle]
    exact ⟨rfl, rfl⟩
  obtain ⟨e', he', received₁, hall₁, haccount₁⟩ := Bridge.accounted_play after hm
    (Connection.wired_kept.play config (before ++ [.loop, write])) he (by simp [hstate])
  obtain ⟨l', hl', received₂, hall₂, haccount₂⟩ := Bridge.accounted_play after hm
    (Connection.wired_kept.play config (before ++ [write, .loop])) hl (by rw [heq]; simp [hstate])
  rw [hnothing.1, List.nil_append] at hall₁
  rw [hnothing.2, List.nil_append] at hall₂
  rw [hwaits] at haccount₁
  rw [hnone] at haccount₂
  subst hall₁ hall₂
  have hkept := haccount₂.kept_eq
  rw [ite_self, List.nil_append] at hkept
  refine ⟨?_, htold₂, ⟨e, l, he, hl, hqueues, heq, hstate, hnotice, hwaits, hnone⟩, e', l', he', hl',
    haccount₁.kept_eq, hkept, fun hlossless₁ hlossless₂ hsame hdone₁ hdone₂ => ?_⟩
  · rw [Bridge.play_append]
    exact htold₁
  · have hwritten₁ := haccount₁.lossless_eq hlossless₁
    have hwritten₂ := haccount₂.lossless_eq hlossless₂
    rw [hdone₁, List.append_nil] at hwritten₁
    rw [hdone₂, List.append_nil, List.nil_append] at hwritten₂
    rw [hwritten₁, hwritten₂, hsame]
    exact List.self_eq_append_left

/-- A connection is made. -/
def made : List Move :=
  [.act (.create "a" { sessionId := "a", host := "far", audioCapacity := 8, headerReserve := 2 } none)]

/-- The wire is opened and what waits is sent, and then another chunk. -/
def streaming : List Move :=
  [.wait 1, .errand 0 .dial, .errand 0 .turn, .act (.call "a" (.audio [[4]] none)), .loop,
    .errand 0 .turn]

/-- The far end receives the chunk written right after `connect` or not, as the loop has taken up the
request by then or not. -/
theorem audio_around_pickup_streaming :
    let write := Move.act (.call "a" (.audio [[1, 2, 3]] none))
    let early := Bridge.play { config := {} } (made ++ [.act (.call "a" .connect)] ++ [.loop, write])
    let late := Bridge.play { config := {} } (made ++ [.act (.call "a" .connect)] ++ [write, .loop])
    ∃ e l, (early.play streaming).find? "a" = some e ∧ (late.play streaming).find? "a" = some l ∧
      l.audioReceived = [4] ∧ l.audioReceived ≠ e.audioReceived := by
  intro write early late
  have hmade : ((Bridge.play { config := {} } made).find? "a").any (fun c => decide (c.held = true ∧
      (c.connect (Bridge.play { config := {} } made).queues).1 = .ok ())) = true := by decide +kernel
  have hasked : ((Bridge.play { config := {} } (made ++ [.act (.call "a" .connect)])).find? "a").any
      (fun c => decide (c.held = true ∧ c.state = .idle ∧ 3 ≤ c.audio.space)) = true := by decide +kernel
  have hearly : ∀ e ∈ (early.play streaming).roster, e.audio.pending = [] := by decide +kernel
  have hlate : ∀ l ∈ (late.play streaming).roster, l.audio.pending = [] ∧ l.audioReceived = [4] := by
    decide +kernel
  have hslot : ∀ m ∈ streaming, ∀ bytes count, m ≠ .act (.call "a" (.slot bytes count)) := by
    simp [streaming]
  obtain ⟨c₀, hc₀, h₀⟩ := (Option.any_eq_true _ _).mp hmade
  obtain ⟨c, hc, h⟩ := (Option.any_eq_true _ _).mp hasked
  obtain ⟨hheld₀, hok⟩ := of_decide_eq_true h₀
  obtain ⟨hheld, hidle, hfits⟩ := of_decide_eq_true h
  obtain ⟨_, _, _, e, l, he, hl, _, _, hiff⟩ :=
    audio_around_pickup {} made [] streaming "a" [[1, 2, 3]] c₀ c hc₀ hheld₀ hok hc (by decide +kernel)
      hheld hidle hfits fun bytes count hmem => hslot _ hmem bytes count rfl
  have he : (early.play streaming).find? "a" = some e := he
  have hl : (late.play streaming).find? "a" = some l := hl
  have hmem := List.mem_of_find?_eq_some he
  have hmem' := List.mem_of_find?_eq_some hl
  obtain ⟨hdone, hreceived⟩ := hlate l hmem'
  have hne := hiff (by decide +kernel) (by decide +kernel) (by decide +kernel) (hearly e hmem) hdone
  exact ⟨e, l, he, hl, hreceived, hne.not.mpr (by decide)⟩

end VoiceBridge
