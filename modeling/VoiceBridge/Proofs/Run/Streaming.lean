import Mathlib.Algebra.Order.Floor.Div
import VoiceBridge.Proofs.Audio.ChunkQueue
import VoiceBridge.Proofs.Run.Along
import VoiceBridge.Proofs.Run.AudioAccount

/-!
# Streaming a file

A stream cuts PCM into frames and writes one after the other, with no turn of the loop in between. After
each frame its owner is called (`streamWith`); the owner of a stream of the bridge closes the connection at
one of these calls, or never.

What a stream reports and what is left waiting can be read off the frames written so far. `Streamed` says
how, of an empty buffer to begin with: a frame counts unless it is larger than the whole buffer, an overrun
comes with the first frame that does not fit behind all those before it, and what waits are the frames since
the last overrun. One more frame keeps it so (`Streamed.write`), and hence so does a stream.
-/

namespace VoiceBridge

/-! ### Frames -/

variable {size : Nat} {h : 0 < size}

theorem length_chunks (bytes : Bytes) : (chunks size h bytes).length = bytes.length ⌈/⌉ size := by
  fun_induction chunks size h bytes with
  | case1 => exact (zero_ceilDiv size).symm
  | case2 b rest ih =>
    have hpos : 0 < (b :: rest).length := Nat.succ_pos _
    generalize b :: rest = bytes at hpos ih ⊢
    rw [List.length_cons, ih, List.length_drop, Nat.ceilDiv_eq_add_pred_div,
      Nat.ceilDiv_eq_add_pred_div, ← Nat.add_div_right _ h]
    rcases Nat.le_total size bytes.length with hle | hle
    · congr 1
      omega
    · have hone : ∀ m, size ≤ m → m < 2 * size → m / size = 1 := fun m hm hlt =>
        Nat.div_eq_of_lt_le (by omega) (by omega)
      rw [hone _ (by omega) (by omega), hone _ (by omega) (by omega)]

/-- The first frames hold the first bytes. -/
theorem flatten_take_chunks (bytes : Bytes) (n : Nat) :
    ((chunks size h bytes).take n).flatten = bytes.take (n * size) := by
  fun_induction chunks size h bytes generalizing n with
  | case1 => simp
  | case2 b rest ih =>
    cases n with
    | zero => simp
    | succ n =>
      rw [List.take_succ_cons, List.flatten_cons, ih, Nat.succ_mul, Nat.add_comm, List.take_add]

/-- No frame is empty. -/
theorem ne_nil_of_mem_chunks (bytes : Bytes) : ∀ piece ∈ chunks size h bytes, piece ≠ [] := by
  fun_induction chunks size h bytes with
  | case1 => simp
  | case2 b rest ih =>
    intro piece hp
    rcases List.mem_cons.mp hp with rfl | hp
    · simp [h.ne']
    · exact ih piece hp

/-! ### One frame after the other -/

/-- The frames `done` were written to an empty buffer that has room for so many bytes. -/
structure Streamed (room : Nat) (done : List Bytes) (r : StreamReport) (b : AudioBuffer) : Prop where
  frames : r.frames = done.length
  bytes : r.bytes = (done.filter (·.length ≤ room)).flatten.length
  overruns : r.overruns = 0 ↔ done.flatten.length ≤ room
  waiting : ∃ q : ChunkQueue room, b.Represents q ∧ q.chunks <:+ done ∧
    (r.overruns = 0 → q.chunks = done) ∧
    (q.chunks ≠ [] ↔ ∃ last, done.getLast? = some last ∧ last.length ≤ room)

variable {room : Nat} {done : List Bytes} {r : StreamReport} {b : AudioBuffer}

theorem Streamed.of_empty (hsound : b.IsSound) (hempty : b.hasPending = false)
    (hroom : room = b.capacity - b.reserve) : Streamed room [] {} b := by
  have hcapacity : b.capacity = b.reserve + room := by
    have hreserve := hsound.reserve_le.trans hsound.cursor_le
    omega
  exact ⟨rfl, rfl, iff_of_true rfl (Nat.zero_le _), { overrunReported := b.overrunReported },
    ⟨hsound, hcapacity, AudioBuffer.pending_eq_nil hempty, rfl⟩, List.suffix_refl _, fun _ => rfl, by simp⟩

/-- One more frame is written. -/
theorem Streamed.write (h : Streamed room done r b) (frame : Bytes) :
    Streamed room (done ++ [frame]) (r.add (b.write frame).1) (b.write frame).2 := by
  obtain ⟨q, hq, hsuffix, hall, -⟩ := h.waiting
  obtain ⟨houtcome, hafter⟩ := hq.write frame
  have hbytes : q.bytes.length ≤ done.flatten.length := by
    obtain ⟨front, hfront⟩ := hsuffix
    simp [ChunkQueue.bytes, ← hfront]
  have hlength : (done ++ [frame]).flatten.length = done.flatten.length + frame.length := by simp
  have hframes : (r.add (b.write frame).1).frames = (done ++ [frame]).length := by
    simp [StreamReport.add, h.frames]
  have hfitting : ((done ++ [frame]).filter (·.length ≤ room)).flatten.length =
      r.bytes + if frame.length ≤ room then frame.length else 0 := by
    rw [List.filter_append, List.flatten_append, List.length_append, h.bytes]
    by_cases hroom : frame.length ≤ room <;> simp [hroom]
  rw [houtcome] at hframes ⊢
  unfold ChunkQueue.write at hframes hafter ⊢
  by_cases hfits : frame.length ≤ q.space
  · have hspace := hfits
    rw [ChunkQueue.space] at hspace
    rw [dif_pos hfits] at hframes hafter ⊢
    refine ⟨hframes, ?_, ?_, _, hafter, ?_, fun hnone => ?_, ?_⟩
    · rw [hfitting, if_pos (by omega)]
      rfl
    · change r.overruns = 0 ↔ _
      rw [hlength, h.overruns]
      constructor
      · intro hle
        have hsame : q.bytes = done.flatten := congrArg List.flatten (hall (h.overruns.mpr hle))
        have hfit := q.fits
        rw [hsame] at hspace
        omega
      · omega
    · obtain ⟨front, rfl⟩ := hsuffix
      exact ⟨front, by simp⟩
    · exact congrArg (· ++ [frame]) (hall hnone)
    · exact iff_of_true (by simp) ⟨frame, by simp, by omega⟩
  · -- The frames that wait are not more than those written, which do not fit together with this one.
    have hover : ¬(done ++ [frame]).flatten.length ≤ room := by
      rw [ChunkQueue.space] at hfits
      omega
    rw [dif_neg hfits] at hframes hafter ⊢
    by_cases halone : frame.length ≤ q.reset.space
    · have hroom : frame.length ≤ room := halone
      rw [dif_pos halone] at hframes hafter ⊢
      refine ⟨hframes, ?_, ?_, _, hafter, ?_, ?_, ?_⟩
      · rw [hfitting, if_pos hroom]
        rfl
      · exact iff_of_false (Nat.succ_ne_zero _) hover
      · exact ⟨done, rfl⟩
      · exact fun hnone => absurd hnone (Nat.succ_ne_zero _)
      · exact iff_of_true (by simp) ⟨frame, by simp, hroom⟩
    · have hroom : ¬frame.length ≤ room := halone
      rw [dif_neg halone] at hframes hafter ⊢
      refine ⟨hframes, ?_, ?_, _, hafter, ?_, ?_, ?_⟩
      · rw [hfitting, if_neg hroom]
        rfl
      · exact iff_of_false (Nat.succ_ne_zero _) hover
      · exact List.nil_suffix
      · exact fun hnone => absurd hnone (Nat.succ_ne_zero _)
      · refine iff_of_false (by simp) ?_
        rintro ⟨last, hlast, hfit⟩
        rw [List.getLast?_concat] at hlast
        cases hlast
        exact hroom hfit

/-! ### A stream -/

namespace Connection

variable {c : Connection} {q : Requests}

/-- A stream that calls its owner, who keeps something in mind, after each frame. -/
def streamWith {σ : Type} (onFrame : σ → Connection → Requests → σ × Connection × Requests) (s : σ)
    (c : Connection) (q : Requests) (r : StreamReport) :
    List Bytes → σ × StreamReport × Connection × Requests
  | [] => (s, r, c, q)
  | frame :: rest =>
    if !c.isConnected then (s, r, c.streamCut r, q)
    else
      let (r, c, q) := c.streamFrame q r frame
      let (s, c, q) := onFrame s c q
      streamWith onFrame s c q r rest

/-- An owner who counts the calls and closes the connection at one of them. -/
def closingAt (closeAfter : Option Nat) (calls : Nat) (c : Connection) (q : Requests) :
    Nat × Connection × Requests :=
  (calls + 1, if closeAfter = some (calls + 1) then (c.close q).2 else (c, q))

/-- The owner of a stream is called once for each frame. -/
theorem streamWith_closingAt (closeAfter : Option Nat) (frames : List Bytes) (c : Connection)
    (q : Requests) (r : StreamReport) :
    streamWith (closingAt closeAfter) r.frames c q r frames =
      ((c.stream q closeAfter r frames).1.frames, c.stream q closeAfter r frames) := by
  induction frames generalizing c q r with
  | nil => rfl
  | cons frame rest ih =>
    unfold streamWith stream
    split
    · rfl
    · have hcalls : r.frames + 1 = (c.streamFrame q r frame).1.frames := rfl
      unfold closingAt
      dsimp only
      rw [hcalls]
      exact ih ..

/-- On a connection that is not connected a stream ends at once. -/
theorem stream_of_not_connected (hs : c.state ≠ .connected) (closeAfter : Option Nat) (r : StreamReport)
    (frames : List Bytes) : ∃ log, c.stream q closeAfter r frames = (r, { c with log }, q) := by
  cases frames with
  | nil => exact ⟨c.log, rfl⟩
  | cons frame rest =>
    have hopen : c.isConnected = false := beq_eq_false_iff_ne.mpr hs
    unfold stream
    rw [hopen]
    exact ⟨_, rfl⟩

/-- To write a frame does not end a connection. -/
theorem streamFrame_eq (c : Connection) (q : Requests) (r : StreamReport) (frame : Bytes) :
    (c.streamFrame q r frame).1 = r.add (c.audio.write frame).1 ∧
      (c.streamFrame q r frame).2.1.audio = (c.audio.write frame).2 ∧
      (c.streamFrame q r frame).2.1.state = c.state := by
  refine ⟨congrArg r.add (outcome_writeAudio c frame), ?_, ?_⟩
  · exact (audio_releaseAudio _ q).trans (audio_writeAudio c frame)
  · obtain ⟨_, _, hwrite⟩ := writeAudio_effect c frame
    obtain ⟨_, hrelease⟩ := releaseAudio_effect (c.writeAudio frame).2 q
    change ((c.writeAudio frame).2.releaseAudio q).1.state = _
    rw [hrelease, hwrite]

/-- A stream writes all its frames, or those up to the one behind which it is closed. -/
theorem streamed_stream (closeAfter : Option Nat) (frames : List Bytes)
    (h : Streamed room done r c.audio) (hs : c.state = .connected)
    (hclose : ∀ k, closeAfter = some k → done.length < k) :
    Streamed room (done ++ closeAfter.elim frames fun k => frames.take (k - done.length))
      (c.stream q closeAfter r frames).1 (c.stream q closeAfter r frames).2.1.audio := by
  induction frames generalizing c q r done with
  | nil =>
    have hnone : (closeAfter.elim [] fun k => [].take (k - done.length)) = ([] : List Bytes) := by
      cases closeAfter <;> simp
    rw [hnone, List.append_nil]
    exact h
  | cons frame rest ih =>
    have hopen : c.isConnected = true := beq_iff_eq.mpr hs
    obtain ⟨hreport, haudio, hstate⟩ := streamFrame_eq c q r frame
    have hnext := h.write frame
    rw [← hreport, ← haudio] at hnext
    have hcount := hnext.frames
    rw [List.length_append, List.length_singleton] at hcount
    rw [hs] at hstate
    unfold stream
    rw [hopen]
    simp only [Bool.not_true, Bool.false_eq_true, if_false]
    generalize c.streamFrame q r frame = written at hnext hcount hstate ⊢
    obtain ⟨r', d, p⟩ := written
    dsimp only at hnext hcount hstate ⊢
    rw [hcount]
    by_cases hlast : closeAfter = some (done.length + 1)
    · have hclosing : (d.close p).2.1.state ≠ .connected := by
        unfold Connection.close
        rw [hstate]
        dsimp only
        rw [beginDisconnect_eq hstate]
        simp
      obtain ⟨_, hkept⟩ := stream_of_not_connected (q := (d.close p).2.2) hclosing closeAfter r' rest
      rw [if_pos hlast, hkept]
      dsimp only
      rw [audio_close]
      simpa [hlast] using hnext
    · rw [if_neg hlast]
      have hlater : ∀ k, closeAfter = some k → (done ++ [frame]).length < k := by
        intro k hk
        have hlt := hclose k hk
        have hne : k ≠ done.length + 1 := fun heq => hlast (heq ▸ hk)
        rw [List.length_append, List.length_singleton]
        omega
      have hrest := ih (q := p) hnext hstate hlater
      have hsplit : (closeAfter.elim (frame :: rest) fun k => (frame :: rest).take (k - done.length)) =
          frame :: closeAfter.elim rest fun k => rest.take (k - (done ++ [frame]).length) := by
        cases closeAfter with
        | none => rfl
        | some k =>
          have hlt := hlater k rfl
          rw [List.length_append, List.length_singleton] at hlt
          obtain ⟨j, rfl⟩ := Nat.exists_eq_add_of_lt hlt
          have hmany : done.length + 1 + j + 1 - done.length = (j + 1) + 1 := by omega
          have hless : done.length + 1 + j + 1 - (done ++ [frame]).length = j + 1 := by simp; omega
          simp only [Option.elim_some, hmany, hless, List.take_succ_cons]
      rw [hsplit, List.append_cons]
      exact hrest

end Connection

/-- A stream on a connected connection with nothing pending. It writes all frames, or as many as the call
of its owner that closes the connection says, and its owner is called once for each. The bytes reported are
those of the frames that are not larger than the whole buffer. An overrun is reported exactly if the frames
written are together larger than that. What waits behind the stream are the last of these frames, each as a
whole, and something waits exactly if the very last one is not larger than the buffer. -/
theorem streamed_in_frames (config : ServiceConfig) (moves : List Move) (id : String) (c : Connection)
    (hc : (Bridge.play { config } moves).find? id = some c) (hheld : c.held = true)
    (hconn : c.state = .connected) (hempty : c.audio.hasPending = false) (settings : StreamSettings)
    (pcm : Bytes) (closeAfter : Option Nat) (hclose : ∀ k, closeAfter = some k → 1 ≤ k) :
    let b := Bridge.play { config } moves
    let after := b.act (.call id (.stream settings pcm closeAfter))
    let size := settings.frameBytes
    let room := c.audio.capacity - c.audio.reserve
    let total := pcm.length ⌈/⌉ size
    let n := closeAfter.elim total (min · total)
    let frames := (settings.cut pcm).take n
    let written := pcm.take (n * size)
    frames.flatten = written ∧ frames.length = n ∧
    ∃ report c', after.1 = .streamed report ∧ after.2.find? id = some c' ∧
      c.streamWith (Connection.closingAt closeAfter) 0 b.queues {} (settings.cut pcm) =
        (n, report, c', after.2.queues) ∧
      report.frames = n ∧
      report.bytes = (frames.filter (·.length ≤ room)).flatten.length ∧
      (size ≤ room → report.bytes = written.length) ∧
      (report.overruns = 0 ↔ written.length ≤ room) ∧
      (∃ kept, kept <:+ frames ∧ c'.audio.pending = kept.flatten) ∧
      (c'.audio.pending ≠ [] ↔ ∃ last, frames.getLast? = some last ∧ last.length ≤ room) := by
  intro b after size room total n frames written
  have hsound : c.audio.IsSound :=
    (Bridge.wired_play config moves c (List.mem_of_find?_eq_some hc)).2.audio
  have htotal : (settings.cut pcm).length = total := length_chunks pcm
  have hn : n ≤ total := by
    cases closeAfter with
    | none => exact Nat.le_refl _
    | some k => exact Nat.min_le_right _ _
  have hframes :
      (closeAfter.elim (settings.cut pcm) fun k => (settings.cut pcm).take (k - 0)) = frames := by
    cases closeAfter with
    | none => exact (List.take_of_length_le htotal.le).symm
    | some k =>
      change (settings.cut pcm).take k = (settings.cut pcm).take (min k total)
      rw [← htotal, ← List.take_take, List.take_length]
  have hwritten : frames.flatten = written := flatten_take_chunks pcm n
  have hlength : frames.length = n := by rw [List.length_take, htotal, Nat.min_eq_left hn]
  have hstreamed := Connection.streamed_stream (q := b.queues) closeAfter (settings.cut pcm)
    (Streamed.of_empty hsound hempty rfl) hconn hclose
  rw [List.nil_append, List.length_nil, hframes] at hstreamed
  obtain ⟨q, hq, hkept, -, hlast⟩ := hstreamed.waiting
  have hreport := hstreamed.frames.trans hlength
  have hafter : after.2 = b.put id (c.perform b.queues (.stream settings pcm closeAfter)).2.1
      (c.perform b.queues (.stream settings pcm closeAfter)).2.2 := by
    rw [Bridge.act_call, hc]
    simp only [hheld, if_true]
  have howner := Connection.streamWith_closingAt closeAfter (settings.cut pcm) c b.queues {}
  rw [hreport] at howner
  have hbytes : q.bytes ≠ [] ↔ q.chunks ≠ [] := by
    refine not_congr ⟨fun hnil => List.eq_nil_iff_forall_not_mem.mpr fun piece hpiece => ?_, fun hnil => ?_⟩
    · have hpart := List.mem_of_mem_take (hkept.subset hpiece)
      exact ne_nil_of_mem_chunks pcm piece hpart (List.flatten_eq_nil_iff.mp hnil piece hpiece)
    · rw [ChunkQueue.bytes, hnil, List.flatten_nil]
  refine ⟨hwritten, hlength, _, _, Bridge.act_call_answer hc hheld _, Bridge.find?_call_held hc hheld _,
    ?_, hreport, hstreamed.bytes, fun hsize => ?_, hwritten ▸ hstreamed.overruns, ⟨q.chunks, hkept,
      hq.pending_eq⟩, ?_⟩
  · rw [hafter]
    exact howner
  · rw [hstreamed.bytes, ← hwritten, List.filter_eq_self.mpr]
    intro piece hpiece
    have hle := length_le_of_mem_chunks size settings.frameBytes_pos pcm piece (List.mem_of_mem_take hpiece)
    exact decide_eq_true (hle.trans hsize)
  · exact hq.pending_eq ▸ hbytes.trans hlast

/-- A connection is opened whose buffer has six cells behind the reserve. -/
def openedSmall : List Move :=
  connectAsked {} ++ [.loop, .wait 1, .errand 0 .dial, .errand 0 .turn]

/-- Frames of two samples each. -/
def twoSamples : StreamSettings := { sampleRate := 1000, frameMillis := 2 }

/-- Ten bytes are cut into three frames of which two are written, the second over the first. -/
theorem streamed_in_frames_overrun :
    let b := Bridge.play { config := {} } openedSmall
    let after := b.act (.call "a" (.stream twoSamples [1, 2, 3, 4, 5, 6, 7, 8, 9, 10] (some 2)))
    ∃ report c', after.1 = .streamed report ∧ after.2.find? "a" = some c' ∧ report.frames = 2 ∧
      report.bytes = 8 ∧ report.overruns ≠ 0 ∧ c'.audio.pending ≠ [] := by
  have hopen : ((Bridge.play { config := {} } openedSmall).find? "a").any (fun c =>
      decide (c.held = true ∧ c.state = .connected ∧ c.audio.hasPending = false ∧
        c.audio.capacity - c.audio.reserve = 6)) = true := by decide +kernel
  have hcut : twoSamples.cut [1, 2, 3, 4, 5, 6, 7, 8, 9, 10] =
      [[1, 2, 3, 4], [5, 6, 7, 8], [9, 10]] := by
    simp [StreamSettings.cut, chunks, StreamSettings.frameBytes, twoSamples]
  obtain ⟨c, hc, hopen⟩ := (Option.any_eq_true _ _).mp hopen
  obtain ⟨hheld, hconn, hempty, hroom⟩ := of_decide_eq_true hopen
  obtain ⟨-, -, report, c', hanswer, hc', -, hframes, -, hbytes, hover, -, hpending⟩ :=
    streamed_in_frames {} openedSmall "a" c hc hheld hconn hempty twoSamples
      [1, 2, 3, 4, 5, 6, 7, 8, 9, 10] (some 2) (by simp)
  rw [hroom] at hbytes hover hpending
  rw [hcut] at hpending
  exact ⟨report, c', hanswer, hc', hframes, hbytes (by decide), fun h => absurd (hover.mp h) (by decide),
    hpending.mpr ⟨[5, 6, 7, 8], rfl, by decide⟩⟩

end VoiceBridge
