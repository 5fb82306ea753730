import VoiceBridge.Proofs.Run.AudioAccount
import VoiceBridge.Proofs.Run.Flush
import VoiceBridge.Proofs.Run.Inbound
import VoiceBridge.Proofs.Run.Interrupted

/-!
# One notice of an overrun

Two flags stand between the overruns of a cycle and the one event that tells of them. The buffer remembers
that an overrun has asked for its notice, so that no later one asks again; the connection remembers that the
notice is still to be delivered, and a writable turn delivers it. `Noticed` ties both to the events: since
the loop took up the connection, as many notices were delivered or are to be as the buffer has asked for.

`Reporting` follows the buffer's flag along the writes of a cycle. Together they say when the event comes
and how often, and which write is told to see to it (`one_overrun_notice`).

The notice of a write that overruns in the middle of the pick-up is lost (`interrupted_pick_up`).
-/

namespace VoiceBridge

namespace AudioEntry

/-- A write that asks for the notice. -/
def notifies : AudioEntry → Bool
  | wrote _ (.overrun _ _ notify) => notify
  | wrote _ (.written _) | sent | failed | closed | closeFailed => false

/-- Entries of a cycle in which an overrun has been reported before them if `early` says so, and behind
them if `late` does. The first overrun of the cycle asks for the notice and no other entry does. -/
structure Reporting (early : Bool) (entries : List AudioEntry) (late : Bool) : Prop where
  late_eq : late = (early || entries.any isOverrun)
  first : ∀ front e back, entries = front ++ e :: back →
    e.notifies = (e.isOverrun && !(early || front.any isOverrun))

theorem Reporting.nil (reported : Bool) : Reporting reported [] reported where
  late_eq := (Bool.or_false reported).symm
  first _ _ _ h := by simp at h

theorem Reporting.single {early late : Bool} {e : AudioEntry} (hlate : late = (early || e.isOverrun))
    (hnotifies : e.notifies = (e.isOverrun && !early)) : Reporting early [e] late where
  late_eq := by simpa using hlate
  first front f back h := by
    cases front with
    | nil =>
      cases h
      simpa using hnotifies
    | cons => simp at h

theorem Reporting.append {r₁ r₂ r₃ : Bool} {early late : List AudioEntry}
    (h₁ : Reporting r₁ early r₂) (h₂ : Reporting r₂ late r₃) : Reporting r₁ (early ++ late) r₃ where
  late_eq := by rw [h₂.late_eq, h₁.late_eq, List.any_append, Bool.or_assoc]
  first front e back heq := by
    rcases List.append_eq_append_iff.mp heq with ⟨mid, rfl, hlate⟩ | ⟨mid, hearly, hmid⟩
    · rw [h₂.first mid e back hlate, h₁.late_eq, List.any_append, Bool.or_assoc]
    · cases mid with
      | nil =>
        rw [List.append_nil] at hearly
        rw [h₂.first [] e back hmid.symm, h₁.late_eq, hearly, List.any_nil, Bool.or_false]
      | cons f mid =>
        cases hmid
        exact h₁.first front e mid hearly

end AudioEntry

open AudioEntry (Reporting)

theorem AudioBuffer.reporting_write (b : AudioBuffer) (chunk : Bytes) :
    Reporting b.overrunReported [.wrote chunk (b.write chunk).1] (b.write chunk).2.overrunReported := by
  unfold AudioBuffer.write
  by_cases hfits : chunk.length ≤ b.space
  · rw [if_pos hfits]
    exact .single (Bool.or_false _).symm rfl
  · rw [if_neg hfits]
    dsimp only
    split
    · exact .single (Bool.or_true _).symm (Bool.true_and _).symm
    · exact .single (Bool.or_true _).symm (Bool.true_and _).symm

namespace Connection

variable {c c' : Connection} {q : Requests} {ctx : LoopContext}

/-! ### The writes of a call -/

theorem reporting_writeAudio (c : Connection) (chunk : Bytes) :
    Reporting c.audio.overrunReported [.wrote chunk (c.writeAudio chunk).1]
      (c.writeAudio chunk).2.audio.overrunReported := by
  rw [outcome_writeAudio, audio_writeAudio]
  exact c.audio.reporting_write chunk

theorem reporting_writeChunks (chunks : List Bytes) (c : Connection) :
    Reporting c.audio.overrunReported (List.zipWith .wrote chunks (c.writeChunks chunks).1)
      (c.writeChunks chunks).2.audio.overrunReported := by
  induction chunks generalizing c with
  | nil => exact .nil _
  | cons chunk rest ih => exact (reporting_writeAudio c chunk).append (ih (c.writeAudio chunk).2)

theorem reporting_stream (closeAfter : Option Nat) (frames : List Bytes) (c : Connection) (q : Requests)
    (r : StreamReport) :
    Reporting c.audio.overrunReported (c.streamEntries q closeAfter r frames)
      (c.stream q closeAfter r frames).2.1.audio.overrunReported := by
  induction frames generalizing c q r with
  | nil => exact .nil _
  | cons frame rest ih =>
    have hwrite := reporting_writeAudio c frame
    rw [← audio_releaseAudio (c.writeAudio frame).2 q] at hwrite
    unfold streamEntries stream
    split
    · exact .nil _
    · dsimp only
      split
      · have hrest := ih ((c.streamFrame q r frame).2.1.close (c.streamFrame q r frame).2.2).2.1
          ((c.streamFrame q r frame).2.1.close (c.streamFrame q r frame).2.2).2.2
          (c.streamFrame q r frame).1
        rw [audio_close] at hrest
        exact hwrite.append hrest
      · exact hwrite.append (ih _ _ _)

theorem overrunReported_commitSlot (c : Connection) (bytes : Bytes) (count : Option Nat) :
    (c.commitSlot bytes count).2.audio.overrunReported = c.audio.overrunReported := by
  unfold commitSlot AudioBuffer.advance
  dsimp only
  split <;> rfl

theorem reporting_call (c : Connection) (q : Requests) (call : Call) :
    Reporting c.audio.overrunReported (c.callEntries q call)
      (c.perform q call).2.1.audio.overrunReported := by
  have hsame : ∀ {d : Connection}, d.audio.overrunReported = c.audio.overrunReported →
      Reporting c.audio.overrunReported [] d.audio.overrunReported := by
    intro d hd
    rw [hd]
    exact .nil _
  cases call with
  | audio chunks text =>
    have hend : (c.perform q (.audio chunks text)).2.1.audio = (c.writeChunks chunks).2.audio := by
      cases text with
      | none => exact audio_releaseAudio _ q
      | some s => exact (audio_releaseAudio _ _).trans (audio_queueText _ s q)
    rw [hend]
    exact reporting_writeChunks chunks c
  | stream settings pcm closeAfter => exact reporting_stream closeAfter _ c q {}
  | slot bytes count =>
    refine hsame (Eq.trans ?_ (overrunReported_commitSlot c bytes count))
    exact congrArg _ (audio_releaseAudio (c.commitSlot bytes count).2 q)
  | connect =>
    obtain ⟨_, heq⟩ := connect_effect c q
    exact hsame (congrArg (·.audio.overrunReported) heq)
  | close => exact hsame (congrArg _ (audio_close c q))
  | closeWithCompletion =>
    have hclose := audio_close c q
    refine hsame (congrArg _ (Eq.trans ?_ hclose))
    change (c.closeWithCompletion q).2.1.audio = _
    rcases closeWithCompletion_cases c q with ⟨_, heq⟩ | ⟨_, heq⟩
    · rw [heq]
      rfl
    · rw [heq]
  | finish => exact hsame (congrArg _ (audio_finish c q))
  | text s => exact hsame (congrArg _ (audio_queueText c s q))
  | drop =>
    obtain ⟨_, heq⟩ := dropHandle_effect c
    exact hsame (congrArg (·.audio.overrunReported) heq)
  | inspect | target => exact .nil _

/-! ### Notices delivered and to be delivered -/

/-- The notices delivered, with the one that is still to be delivered. -/
def overrunTally (c : Connection) : Nat := c.events.count .bufferOverrun + c.overrunNotice.toNat

/-- Since the loop took up the connection its owner was told of an overrun, or is to be, if and only if the
buffer has asked for that, where so many notices have been lost. -/
def Noticed (lost : Nat) (c : Connection) : Prop :=
  c.state ≠ .idle → c.overrunTally + lost = c.audio.overrunReported.toNat

variable {lost : Nat}

theorem Noticed.congr (h : c.Noticed lost) (hs : c'.state ≠ .idle → c.state ≠ .idle)
    (hevents : c'.events = c.events) (hnotice : c'.overrunNotice = c.overrunNotice)
    (haudio : c'.audio.overrunReported = c.audio.overrunReported) : c'.Noticed lost := by
  intro hs'
  rw [overrunTally, hevents, hnotice, haudio]
  exact h (hs hs')

/-- Only a write that asks for the notice leaves one to be delivered. -/
theorem overrunNotice_writeAudio (c : Connection) (chunk : Bytes) :
    (c.writeAudio chunk).2.overrunNotice =
      (c.overrunNotice || (AudioEntry.wrote chunk (c.writeAudio chunk).1).notifies) := by
  unfold Connection.writeAudio
  dsimp only
  split
  · rename_i hwrite
    simp [hwrite, AudioEntry.notifies]
  · rename_i hwrite
    cases houtcome : (c.audio.write chunk).1 with
    | written n => simp [AudioEntry.notifies]
    | overrun dropped written notify =>
      cases notify with
      | true => exact absurd houtcome (hwrite dropped written)
      | false => simp [AudioEntry.notifies]

theorem Noticed.write (h : c.Noticed lost) (chunk : Bytes) : (c.writeAudio chunk).2.Noticed lost := by
  have hreport := reporting_writeAudio c chunk
  have hnotifies := hreport.first [] _ [] rfl
  have hlate := hreport.late_eq
  have hnotice := overrunNotice_writeAudio c chunk
  obtain ⟨_, _, heq⟩ := writeAudio_effect c chunk
  have hstate : (c.writeAudio chunk).2.state = c.state := congrArg (·.state) heq
  have hevents : (c.writeAudio chunk).2.events = c.events := congrArg (·.events) heq
  intro hs
  have htally := h (hstate ▸ hs)
  rw [overrunTally] at htally ⊢
  rw [hevents, hnotice, hlate, hnotifies]
  cases hr : c.audio.overrunReported with
  | true => simpa [hr] using htally
  | false =>
    rw [hr] at htally
    obtain ⟨hnone, hlost⟩ := Nat.add_eq_zero_iff.mp htally
    obtain ⟨hcount, hflag⟩ := Nat.add_eq_zero_iff.mp hnone
    have hnotice : c.overrunNotice = false := by simpa using hflag
    simp [hcount, hnotice, hlost]

theorem noticed_kept_by_calls :
    KeptByCalls (fun c _ => c.Noticed lost) (fun c _ => c.Noticed lost) where
  connect {c q} h := by
    obtain ⟨_, heq⟩ := connect_effect c q
    rw [heq]
    exact h.congr (fun hs => hs) rfl rfl rfl
  close {c q} h := by
    have hstate := (CallFrame.close c q).state
    obtain ⟨_, _, heq⟩ := close_effect c q
    rw [heq] at hstate ⊢
    refine h.congr (fun hs hidle => ?_) rfl rfl rfl
    rcases hstate with hstate | ⟨hconn, _⟩
    · exact hs (hstate.trans hidle)
    · simp [hidle] at hconn
  subscribe h := h.congr (fun hs => hs) rfl rfl rfl
  finish {c q} h := by
    rcases finish_effect c q with ⟨_, heq⟩ | ⟨_, _, heq⟩ <;>
      (rw [heq]; exact h.congr (fun hs => hs) rfl rfl rfl)
  queueText {c q} s h := by
    rcases queueText_effect c s q with ⟨_, heq⟩ | ⟨_, _, heq⟩ <;>
      (rw [heq]; exact h.congr (fun hs => hs) rfl rfl rfl)
  warn _ h := h.congr (fun hs => hs) rfl rfl rfl
  drop {c q} h := by
    obtain ⟨_, heq⟩ := dropHandle_effect c
    rw [heq]
    exact h.congr (fun hs => hs) rfl rfl rfl
  hold h := h
  write chunk h := h.write chunk
  commit {c q} bytes count h :=
    h.congr (fun hs => hs) rfl rfl (overrunReported_commitSlot c bytes count)
  queueHeld {c q} s h := by
    rcases queueText_effect c s q with ⟨_, heq⟩ | ⟨_, _, heq⟩ <;>
      (rw [heq]; exact h.congr (fun hs => hs) rfl rfl rfl)
  release {c q} h := by
    obtain ⟨_, heq⟩ := releaseAudio_effect c q
    rw [heq]
    exact h.congr (fun hs => hs) rfl rfl rfl

/-! ### The driver -/

/-- A turn delivers the notice, so that it is no longer to be delivered. -/
theorem overrunTally_turned (c : Connection) (phase : Phase) (outbox : List OutboundFrame)
    (audio : AudioBuffer) (writable : Bool) (log : List LogLine) :
    (c.turned phase outbox audio writable log).overrunTally = c.overrunTally := by
  have hnotices : c.notices.count .bufferOverrun = (c.isConnected && c.overrunNotice).toNat := by
    unfold notices
    cases c.isConnected && c.overrunNotice <;> rfl
  rw [overrunTally, overrunTally, turned, List.count_append, hnotices]
  cases c.isConnected <;> cases c.overrunNotice <;> rfl

theorem overrunTally_finished (c : Connection) (final : ConnectionState) {last : EventKind}
    {o : TerminalOutcome} (h : last.outcome? = some o) (log : List LogLine) :
    (c.finished final last o log).overrunTally = c.overrunTally := by
  have hlast : last ≠ .bufferOverrun := by
    rintro rfl
    cases h
  rw [overrunTally, overrunTally, finished, List.count_append, List.count_singleton]
  simp [hlast]

/-- What comes in brings no notice. -/
theorem count_bufferOverrun_push (o : PushOutcome) (bidirectional : Bool) :
    (o.events bidirectional).count .bufferOverrun = 0 := by
  refine List.count_eq_zero.mpr fun hmem => ?_
  cases List.filter_eq_self.mp (o.filter_events bidirectional) _ hmem

theorem Attempt.overrun {s : Session} {f : OutboundFrame} {before after : Connection}
    (h : Attempt ctx c s f before after) :
    before.overrunTally = c.overrunTally ∧ after.overrunTally = c.overrunTally ∧
      before.audio.overrunReported = c.audio.overrunReported ∧
      after.audio.overrunReported = c.audio.overrunReported := by
  cases h with
  | ping => exact ⟨rfl, rfl, rfl, rfl⟩
  | _ => exact ⟨overrunTally_turned .., overrunTally_turned .., rfl, rfl⟩

/-- The driver neither asks for a notice nor loses one. -/
theorem Progress.overrun (h : Progress ctx c c') :
    c'.overrunTally = c.overrunTally ∧ c'.audio.overrunReported = c.audio.overrunReported := by
  have hfinished : ∀ {d : Connection} (final : ConnectionState) {last : EventKind}
      {o : TerminalOutcome}, last.outcome? = some o → ∀ log : List LogLine,
      d.overrunTally = c.overrunTally ∧ d.audio.overrunReported = c.audio.overrunReported →
      (d.finished final last o log).overrunTally = c.overrunTally ∧
        (d.finished final last o log).audio.overrunReported = c.audio.overrunReported :=
    fun final _ _ hlast log hd => ⟨(overrunTally_finished _ final hlast log).trans hd.1, hd.2⟩
  cases h with
  | refused e log => exact hfinished .failed rfl log ⟨rfl, rfl⟩
  | opened =>
    refine ⟨?_, rfl⟩
    rw [overrunTally, overrunTally, List.count_append]
    rfl
  | quiet => exact ⟨overrunTally_turned .., rfl⟩
  | sent log _ attempt => exact ⟨attempt.overrun.2.1, attempt.overrun.2.2.2⟩
  | lost log _ attempt _ _ outcome =>
    exact hfinished _ outcome log ⟨attempt.overrun.1, attempt.overrun.2.2.1⟩
  | taken =>
    refine ⟨?_, rfl⟩
    rw [overrunTally, overrunTally, List.count_append, count_bufferOverrun_push]
    rfl
  | ended log _ _ _ _ outcome => exact hfinished _ outcome log ⟨rfl, rfl⟩
  | expired log _ _ _ outcome => exact hfinished _ outcome log ⟨rfl, rfl⟩
  | spent | discarded | heard | broken => exact ⟨rfl, rfl⟩

theorem Noticed.progress (h : c.Noticed lost) (hstanding : c.Standing false)
    (hp : Progress ctx c c') : c'.Noticed lost := by
  intro _
  rw [hp.overrun.1, hp.overrun.2]
  exact h (hstanding.begun_of_isDriven hp.isDriven)

theorem noticed_kept : Bridge.KeptByMoves fun stopped c => c.Standing stopped ∧ c.Noticed 0 where
  create h := by
    refine ⟨.of_create h, fun hs => ?_⟩
    obtain ⟨_, _, rfl⟩ := create_eq h
    exact absurd rfl hs
  call call h := ⟨standing_kept.call call h.1, noticed_kept_by_calls.perform call h.2⟩
  far {_ c} call h := by
    refine ⟨standing_kept.far call h.1, ?_⟩
    obtain ⟨_, _, hfar⟩ := c.farCall_eq call
    rw [hfar]
    exact h.2.congr (fun hs => hs) rfl rfl rfl
  takeConnect {c} b h := by
    refine ⟨standing_kept.takeConnect b h.1, ?_⟩
    by_cases hc : c.isAlive = true ∧ c.state = .idle
    · rw [Bridge.takeConnect_of_idle hc.1 hc.2]
      intro _
      rw [overrunTally, Bridge.dialled, (h.1.of_idle hc.2).2.2]
      rfl
    · rw [Bridge.takeConnect_of_not hc]
      exact h.2
  takeDisconnect {c} h := by
    refine ⟨standing_kept.takeDisconnect h.1, ?_⟩
    rw [Bridge.takeDisconnect_eq]
    exact h.2.congr (fun hs => hs) rfl rfl rfl
  takeWrite {c} h := by
    refine ⟨standing_kept.takeWrite h.1, ?_⟩
    rw [Bridge.takeWrite_eq]
    exact h.2.congr (fun hs => hs) rfl rfl rfl
  seeTo hsee h :=
    ⟨standing_kept.seeTo hsee h.1, h.2.progress h.1 (progress_of_seeTo? h.1 hsee)⟩
  abandon h := ⟨standing_kept.abandon h.1, h.2.congr (fun hs => hs) rfl rfl rfl⟩
  shutdown {c} h := by
    refine ⟨standing_kept.shutdown h.1, ?_⟩
    split
    · exact h.2.congr (fun hs => hs) rfl rfl rfl
    · exact h.2

end Connection

namespace Bridge

theorem noticed_play (config : ServiceConfig) (moves : List Move) :
    ∀ c ∈ (play { config } moves).roster,
      c.Standing (play { config } moves).queues.stopped ∧ c.Noticed 0 :=
  Connection.noticed_kept.play config moves

/-- The writes that a move makes on the connection of a name. -/
def writesSeen (id : String) (b : Bridge) : Move → List AudioEntry
  | .act (.call name call) =>
    match b.find? id with
    | some c => if name = id ∧ c.held then c.callEntries b.queues call else []
    | none => []
  | _ => []

/-- The loop takes up the connection of the name in the move that follows these. -/
def TakesUp (config : ServiceConfig) (id : String) (before : List Move) : Prop :=
  ∃ c c', (play { config } before).find? id = some c ∧ c.state = .idle ∧
    (play { config } (before ++ [.loop])).find? id = some c' ∧ c'.state = .connecting

variable {b : Bridge} {c c' : Connection} {m : Move}

/-- Only the loop can take up an idle connection, and then no overrun has been reported in its cycle. -/
theorem takenUp_of_idle (hstanding : c.Standing b.queues.stopped) (hidle : c.state = .idle)
    (hchange : Change b c m c') (hs : c'.state ≠ .idle) :
    m = .loop ∧ c'.state = .connecting ∧ c'.audio.overrunReported = false := by
  have habsent := (hstanding.of_idle hidle).1
  have hsame : c'.state = c.state → m = .loop ∧ c'.state = .connecting ∧
      c'.audio.overrunReported = false := fun heq => absurd (heq.trans hidle) hs
  cases hchange with
  | @call call =>
    rcases (Connection.CallFrame.perform c b.queues call).state with heq | ⟨hconn, _⟩
    · exact hsame heq
    · simp [hidle] at hconn
  | @far call =>
    obtain ⟨_, _, hfar⟩ := c.farCall_eq call
    exact hsame (congrArg (·.state) hfar)
  | takenUp =>
    obtain ⟨_, _, _, heq, _, rfl | ⟨_, _, rfl⟩⟩ := takenUp_cases b c
    · exact hsame (congrArg (·.state) heq)
    · rw [heq]
      exact ⟨rfl, rfl, rfl⟩
  | progress running progress => exact absurd hidle (hstanding.begun_of_isDriven progress.isDriven)
  | unheld | other | cut | spared => exact hsame rfl

/-- A connection that is not idle was taken up by the loop. -/
theorem exists_takesUp {config : ServiceConfig} {moves : List Move} {id : String}
    (hc : (play { config } moves).find? id = some c) (hs : c.state ≠ .idle) :
    ∃ before after, moves = before ++ .loop :: after ∧ TakesUp config id before := by
  induction moves using List.reverseRecOn generalizing c with
  | nil => exact (List.not_mem_nil (List.mem_of_find?_eq_some hc)).elim
  | append_singleton moves m ih =>
    have hb := fun d hd => (wired_play config moves d hd).1
    have hnext := play_concat { config } moves m
    cases hd : (play { config } moves).find? id with
    | none =>
      rw [hnext] at hc
      obtain ⟨_, _, _, hcreate⟩ := find?_move_of_none hb hd hc
      obtain ⟨_, _, rfl⟩ := Connection.create_eq hcreate
      exact absurd rfl hs
    | some d =>
      by_cases hidle : d.state = .idle
      · obtain ⟨d', hd', hchange⟩ := find?_move_of_some hb hd m
        rw [← hnext, hc] at hd'
        cases hd'
        obtain ⟨rfl, hconnecting, _⟩ :=
          takenUp_of_idle (hb d (List.mem_of_find?_eq_some hd)) hidle hchange hs
        exact ⟨moves, [], rfl, d, c, hd, hidle, hc, hconnecting⟩
      · obtain ⟨before, after, rfl, htakes⟩ := ih hd hidle
        exact ⟨before, after ++ [m], by simp, htakes⟩

/-- Once a connection is taken up, the buffer's flag goes along with the writes. -/
theorem reporting_change (hc : b.find? c.id = some c) (hstanding : c.Standing b.queues.stopped)
    (hidle : c.state ≠ .idle) (hchange : Change b c m c') :
    c'.state ≠ .idle ∧
      Reporting c.audio.overrunReported (writesSeen c.id b m) c'.audio.overrunReported := by
  have hquiet : c'.state ≠ .idle ∧ c'.audio.overrunReported = c.audio.overrunReported →
      writesSeen c.id b m = [] → c'.state ≠ .idle ∧
        Reporting c.audio.overrunReported (writesSeen c.id b m) c'.audio.overrunReported := by
    rintro ⟨hs, haudio⟩ hnone
    rw [haudio, hnone]
    exact ⟨hs, .nil _⟩
  have hstate := not_idle_change hstanding hidle hchange
  cases hchange with
  | @call call held =>
    have hseen : writesSeen c.id b (.act (.call c.id call)) = c.callEntries b.queues call := by
      simp [writesSeen, hc, held]
    rw [hseen]
    exact ⟨hstate, Connection.reporting_call c b.queues call⟩
  | unheld held => exact hquiet ⟨hstate, rfl⟩ (by simp [writesSeen, hc, held])
  | other ne => exact hquiet ⟨hstate, rfl⟩ (by simp [writesSeen, hc, ne])
  | @far call =>
    obtain ⟨_, _, hfar⟩ := c.farCall_eq call
    exact hquiet ⟨hstate, congrArg (·.audio.overrunReported) hfar⟩ rfl
  | takenUp =>
    obtain ⟨_, _, _, heq, _, rfl | ⟨_, hs, _⟩⟩ := takenUp_cases b c
    · exact hquiet ⟨hstate, congrArg (·.audio.overrunReported) heq⟩ rfl
    · exact absurd hs hidle
  | progress running progress => exact hquiet ⟨hstate, progress.overrun.2⟩ rfl
  | cut => exact hquiet ⟨hstate, rfl⟩ rfl
  | spared quiet =>
    refine hquiet ⟨hstate, rfl⟩ ?_
    unfold writesSeen
    split
    · exact absurd rfl (quiet _ _)
    · rfl

/-- The writes since the loop took up a connection, with the buffer's flag behind them. -/
theorem reporting_since {config : ServiceConfig} {before after : List Move} {id : String}
    (htakes : TakesUp config id before)
    (hc : (play { config } (before ++ .loop :: after)).find? id = some c) :
    c.state ≠ .idle ∧
      Reporting false ((play { config } (before ++ [.loop])).record (writesSeen id) after)
        c.audio.overrunReported := by
  obtain ⟨d, d', hd, hidle, hd', hconnecting⟩ := htakes
  have hb := fun e he => (wired_play config before e he).1
  have hnext := play_concat { config } before .loop
  obtain ⟨_, hsome, hchange⟩ := find?_move_of_some hb hd .loop
  rw [← hnext, hd'] at hsome
  cases hsome
  obtain ⟨_, _, hunreported⟩ := takenUp_of_idle (hb d (List.mem_of_find?_eq_some hd)) hidle hchange
    (by simp [hconnecting])
  obtain ⟨c', hc', hstate, hreport⟩ := play_kept id (writesSeen id)
    (P := fun _ e seen => e.state ≠ .idle ∧ Reporting false seen e.audio.overrunReported)
    (fun {b m e e' seen} _ he _ hstanding _ hchange h => by
      have hid := id_of_find? he
      subst hid
      obtain ⟨hs, hreport⟩ := reporting_change he hstanding h.1 hchange
      exact ⟨hs, h.2.append hreport⟩)
    after (along_true after _) (wired_play config (before ++ [.loop])) hd' []
    ⟨by simp [hconnecting], by rw [hunreported]; exact .nil false⟩
  rw [hnext, ← play_split, hc] at hc'
  cases hc'
  exact ⟨hstate, hreport⟩

/-- What holds of the notices of a connection that has been taken up is kept by every move. -/
theorem noticed_change {lost : Nat} (hstanding : c.Standing b.queues.stopped) (hidle : c.state ≠ .idle)
    (h : c.Noticed lost) (hchange : Change b c m c') : c'.Noticed lost := by
  cases hchange with
  | @call call => exact Connection.noticed_kept_by_calls.perform call h
  | @far call =>
    obtain ⟨_, _, hfar⟩ := c.farCall_eq call
    rw [hfar]
    exact h.congr (fun hs => hs) rfl rfl rfl
  | takenUp =>
    obtain ⟨_, _, _, heq, _, rfl | ⟨_, hs, _⟩⟩ := takenUp_cases b c
    · rw [heq]
      exact h.congr (fun hs => hs) rfl rfl rfl
    · exact absurd hs hidle
  | progress running progress => exact h.progress (running ▸ hstanding) progress
  | cut => exact h.congr (fun hs => hs) rfl rfl rfl
  | unheld | other | spared => exact h

/-- A notice that is lost is never made up for, and no later write asks for one. -/
theorem unnoticed_play {id : String} (later : List Move)
    (hb : ∀ c ∈ b.roster, c.Standing b.queues.stopped ∧ c.Wired) (hc : b.find? id = some c)
    (hidle : c.state ≠ .idle) (hlost : c.Noticed 1) :
    ∃ c', (b.play later).find? id = some c' ∧ .bufferOverrun ∉ c'.events ∧
      ∀ e ∈ b.record (writesSeen id) later, e.notifies = false := by
  have htally := hlost hidle
  have hreported : c.audio.overrunReported = true := by
    cases hr : c.audio.overrunReported with
    | true => rfl
    | false => simp [hr] at htally
  obtain ⟨c', hc', hidle', hlost', hreport⟩ := play_kept id (writesSeen id)
    (P := fun _ e seen => e.state ≠ .idle ∧ e.Noticed 1 ∧
      AudioEntry.Reporting true seen e.audio.overrunReported)
    (fun {b m e e' seen} _ he _ hstanding _ hchange h => by
      have hid := id_of_find? he
      subst hid
      obtain ⟨hs, hreport⟩ := reporting_change he hstanding h.1 hchange
      exact ⟨hs, noticed_change hstanding h.1 h.2.1 hchange, h.2.2.append hreport⟩)
    later (along_true later _) hb hc []
    ⟨hidle, hlost, by rw [hreported]; exact .nil true⟩
  refine ⟨c', hc', fun hmem => ?_, fun e he => ?_⟩
  · have hsome : 0 < c'.events.count .bufferOverrun := List.count_pos_iff.mpr hmem
    have htally' := hlost' hidle'
    rw [Connection.overrunTally] at htally'
    have hle := Bool.toNat_le c'.audio.overrunReported
    omega
  · obtain ⟨front, back, heq⟩ := List.append_of_mem he
    simpa using hreport.first front e back heq

/-- A pick-up that is interrupted is the round of the loop, followed by the calls, if no write overruns
inside; and if one does, nothing is ever delivered of an overrun in the cycle. -/
theorem interrupted_pick_up {config : ServiceConfig} {id : String} {before : List Move}
    (htakes : TakesUp config id before) (calls : List Call) :
    let b := (play { config } before).loopAmid id calls
    let inside := (play { config } (before ++ [.loop])).record (writesSeen id) (callsOn id calls)
    ((∀ e ∈ inside, e.isOverrun = false) → b = play { config } (before ++ .loop :: callsOn id calls)) ∧
      ((∃ e ∈ inside, e.isOverrun = true) → ∀ later, ∃ c, (b.play later).find? id = some c ∧
        .bufferOverrun ∉ c.events ∧ ∀ e ∈ b.record (writesSeen id) later, e.notifies = false) := by
  intro b inside
  have htakes' := htakes
  obtain ⟨d, d', hd, hidle, hd', hconnecting⟩ := htakes
  have hb := fun e he => (wired_play config before e he).1
  have hd'' := hd'
  rw [play_concat] at hd''
  -- The ordinary run: the round of the loop, followed by the calls.
  have hordinary : b = (play { config } (before ++ .loop :: callsOn id calls)).modify id dropNotice := by
    rw [play_split, ← play_cons]
    exact loopAmid_eq hb hd hidle hd'' hconnecting calls
  obtain ⟨c, hc, hs⟩ := exists_play_callsOn calls hd' hconnecting
  rw [play_concat, ← play_split] at hc
  have hmem := List.mem_of_find?_eq_some hc
  have hstanding := (wired_play config _ c hmem).1
  have hnoticed := (noticed_play config _ c hmem).2
  obtain ⟨hstate, hreport⟩ := reporting_since htakes' hc
  have hlate : c.audio.overrunReported = inside.any (·.isOverrun) :=
    hreport.late_eq.trans (Bool.false_or _)
  have htally := hnoticed hstate
  refine ⟨fun hnone => ?_, fun hsome later => ?_⟩
  · have hquiet : inside.any (·.isOverrun) = false := by simpa using hnone
    rw [hlate, hquiet] at htally
    have hnotice : c.overrunNotice = false := by
      rw [Connection.overrunTally] at htally
      simpa using (Nat.add_eq_zero_iff.mp (Nat.add_eq_zero_iff.mp htally).1).2
    rw [hordinary]
    refine modify_of_find? hc ?_
    unfold dropNotice
    rw [← hnotice]
  · have hloud : inside.any (·.isOverrun) = true := by simpa using hsome
    have hevents : c.events = [] := hstanding.events_of_connecting hs
    have hdropped : b.find? id = some (dropNotice c) := hordinary ▸ find?_dropNotice hc
    have hkept : ∀ e ∈ b.roster, e.Standing b.queues.stopped ∧ e.Wired :=
      hordinary ▸ wired_dropNotice (wired_play config _) id
    refine unnoticed_play later hkept hdropped hstate fun _ => ?_
    rw [Connection.overrunTally]
    change c.events.count .bufferOverrun + 0 + 1 = c.audio.overrunReported.toNat
    rw [hevents, hlate, hloud]
    rfl

end Bridge

open Bridge in
/-- The owner of a connection is told of an overrun at most once. A connection that is not idle was taken up
by the loop at some point. From there on the first write that overruns asks for the notice and no other
does; the notice is delivered only if there is such a write, and it has been delivered once if there is
one, whether before or after the wire was open, when the bridge is settled with the connection
connected and the clock reaches. Overruns before that point, at which nothing has been delivered, have no
part in this.

The loop takes the connection up in two steps: it begins the cycle and then drops what was noted before.
Calls may fall in between. A pick-up so interrupted is a round of the loop followed by the calls, and all of
this holds of it, unless one of the calls overruns. Its write has then asked for a notice that is dropped at
once: in this one case nothing is delivered of any overrun in the cycle, and no later write asks again. -/
theorem one_overrun_notice (config : ServiceConfig) (moves : List Move) :
    let b := play { config } moves
    (∀ c ∈ b.roster, c.events.count .bufferOverrun ≤ 1 ∧ (c.state = .idle → c.events = [])) ∧
    (∀ id c, b.find? id = some c → c.state ≠ .idle →
      ∃ before after, moves = before ++ .loop :: after ∧ TakesUp config id before) ∧
    (∀ id c before after, b.find? id = some c → moves = before ++ .loop :: after →
      TakesUp config id before →
      let entries := (play { config } (before ++ [.loop])).record (writesSeen id) after
      (∀ front e back, entries = front ++ e :: back →
        e.notifies = (e.isOverrun && !front.any (·.isOverrun))) ∧
      (.bufferOverrun ∈ c.events → ∃ e ∈ entries, e.isOverrun = true) ∧
      (b.queues.stopped = false → b.Settled → b.ClockReaches c.config.profile → c.state = .connected →
        c.events.count .bufferOverrun = if entries.any (·.isOverrun) then 1 else 0)) ∧
    ∀ id calls, TakesUp config id moves →
      let interrupted := b.loopAmid id calls
      let inside := (play { config } (moves ++ [.loop])).record (writesSeen id) (callsOn id calls)
      ((∀ e ∈ inside, e.isOverrun = false) →
        interrupted = play { config } (moves ++ .loop :: callsOn id calls)) ∧
      ((∃ e ∈ inside, e.isOverrun = true) → ∀ later, ∃ c, (interrupted.play later).find? id = some c ∧
        .bufferOverrun ∉ c.events ∧
        ∀ e ∈ interrupted.record (writesSeen id) later, e.notifies = false) := by
  intro b
  refine ⟨fun c hc => ?_, fun id c hc hs => exists_takesUp hc hs, ?_,
    fun id calls htakes => interrupted_pick_up htakes calls⟩
  · obtain ⟨hstanding, hnoticed⟩ := noticed_play config moves c hc
    by_cases hidle : c.state = .idle
    · have hnone := (hstanding.of_idle hidle).2.2
      exact ⟨by rw [hnone]; exact Nat.zero_le 1, fun _ => hnone⟩
    · refine ⟨?_, fun h => absurd h hidle⟩
      calc c.events.count .bufferOverrun ≤ c.overrunTally + 0 := Nat.le_add_right _ _
        _ = c.audio.overrunReported.toNat := hnoticed hidle
        _ ≤ 1 := Bool.toNat_le _
  · intro id c before after hc hmoves htakes entries
    have hnoticed := (noticed_play config moves c (List.mem_of_find?_eq_some hc)).2
    have hc' : (play { config } (before ++ .loop :: after)).find? id = some c := by
      rw [← hmoves]
      exact hc
    obtain ⟨hstate, hreport⟩ := reporting_since htakes hc'
    have htally : c.events.count .bufferOverrun + c.overrunNotice.toNat =
        (entries.any (·.isOverrun)).toNat := by
      have hlate := hreport.late_eq
      rw [Bool.false_or] at hlate
      rw [← hlate]
      exact hnoticed hstate
    refine ⟨fun front e back heq => ?_, fun hmem => ?_, fun hrunning hsettled hreach hconn => ?_⟩
    · have hfirst := hreport.first front e back heq
      rwa [Bool.false_or] at hfirst
    · have hsome : 0 < c.events.count .bufferOverrun := List.count_pos_iff.mpr hmem
      rw [← List.any_eq_true]
      by_contra hnone
      rw [Bool.not_eq_true] at hnone
      rw [hnone] at htally
      exact absurd htally (by simp; omega)
    · have hdriven := isDriven_of_state (List.mem_of_find?_eq_some hc) hrunning hreach (.inl hconn)
      rw [((idle_of_settled hc hrunning hsettled).work hconn hdriven).2.2] at htally
      rw [Bool.toNat_false, Nat.add_zero] at htally
      rw [htally]
      cases entries.any (·.isOverrun) <;> rfl

/-- An overrun before the loop takes up the request to connect. -/
def overrunAsking : List Move :=
  [.act (.create "a" { sessionId := "a", host := "far", audioCapacity := 8, headerReserve := 2 }
      none),
    .act (.call "a" (.audio [[1, 2, 3, 4, 5, 6, 7]] none)), .act (.call "a" .connect)]

/-- One while the wire is being opened, and one after that. -/
def overrunOpening : List Move :=
  [.act (.call "a" (.audio [[1, 2, 3, 4, 5, 6, 7]] none)), .wait 1, .errand 0 .dial,
    .act (.call "a" (.audio [[1, 2, 3, 4, 5, 6, 7]] none)), .loop, .errand 0 .turn]

/-- Told once of those, though not of an overrun that interrupts the pick-up. -/
theorem one_overrun_notice_opening :
    (∃ c, (Bridge.play { config := {} } (overrunAsking ++ .loop :: overrunOpening)).find? "a" =
        some c ∧
      c.state = .connected ∧ c.events.count .bufferOverrun = 1) ∧
    ∃ c, (((Bridge.play { config := {} } overrunAsking).loopAmid "a"
        [.audio [[1, 2, 3, 4, 5, 6, 7]] none]).play overrunOpening).find? "a" = some c ∧
      .bufferOverrun ∉ c.events := by
  have hasked : ((Bridge.play { config := {} } overrunAsking).find? "a").any (fun c =>
      decide (c.state = .idle)) = true := by decide +kernel
  have htaken : ((Bridge.play { config := {} } (overrunAsking ++ [.loop])).find? "a").any
      (fun c => decide (c.state = .connecting)) = true := by decide +kernel
  have hopen : ((Bridge.play { config := {} } (overrunAsking ++ .loop :: overrunOpening)).find?
      "a").any (fun c => decide (c.state = .connected ∧ (Bridge.play { config := {} }
        (overrunAsking ++ .loop :: overrunOpening)).ClockReaches c.config.profile)) = true := by
    decide +kernel
  have hoverrun : ((Bridge.play { config := {} } (overrunAsking ++ [.loop])).record
      (Bridge.writesSeen "a") overrunOpening).any (·.isOverrun) = true := by decide +kernel
  obtain ⟨c₀, hc₀, hidle⟩ := (Option.any_eq_true _ _).mp hasked
  obtain ⟨c₁, hc₁, hconnecting⟩ := (Option.any_eq_true _ _).mp htaken
  obtain ⟨c, hc, hopen⟩ := (Option.any_eq_true _ _).mp hopen
  obtain ⟨hconnected, hreach⟩ := of_decide_eq_true hopen
  obtain ⟨-, -, hsince, -⟩ := one_overrun_notice {} (overrunAsking ++ .loop :: overrunOpening)
  obtain ⟨-, -, hcount⟩ := hsince "a" c overrunAsking overrunOpening hc rfl
    ⟨c₀, c₁, hc₀, of_decide_eq_true hidle, hc₁, of_decide_eq_true hconnecting⟩
  have hone := hcount (by decide +kernel) ⟨by decide +kernel, by decide +kernel⟩ hreach
    hconnected
  rw [hoverrun, if_pos rfl] at hone
  refine ⟨⟨c, hc, hconnected, hone⟩, ?_⟩
  -- The pick-up is interrupted.
  have hinside : ((Bridge.play { config := {} } (overrunAsking ++ [.loop])).record
      (Bridge.writesSeen "a") (Bridge.callsOn "a" [.audio [[1, 2, 3, 4, 5, 6, 7]] none])).any
        (·.isOverrun) = true := by decide +kernel
  obtain ⟨-, -, -, hinterrupted⟩ := one_overrun_notice {} overrunAsking
  obtain ⟨-, hlost⟩ := hinterrupted "a" [.audio [[1, 2, 3, 4, 5, 6, 7]] none]
    ⟨c₀, c₁, hc₀, of_decide_eq_true hidle, hc₁, of_decide_eq_true hconnecting⟩
  obtain ⟨d, hd, hnot, -⟩ := hlost (List.any_eq_true.mp hinside) overrunOpening
  exact ⟨d, hd, hnot⟩

end VoiceBridge
