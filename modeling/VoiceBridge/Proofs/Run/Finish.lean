import VoiceBridge.Proofs.Run.AudioHistory

/-!
# The finish signal and the audio before it

A turn of the driver sends text before audio, and the finish signal waits with the texts. So all audio
that is sent after a call of `finish` arrives behind its signal (`audio_behind_finish`). What was waiting
at the call is among it, unless it is dropped.
-/

namespace VoiceBridge

/-- The frames behind the first `n` texts and finish signals. -/
def behind : Nat → List OutboundFrame → List OutboundFrame
  | 0, frames => frames
  | _ + 1, [] => []
  | n + 1, f :: rest => if f.isQueued then behind n rest else behind (n + 1) rest

@[simp] theorem behind_zero (frames : List OutboundFrame) : behind 0 frames = frames := by
  cases frames <;> rfl

theorem behind_append {n : Nat} {frames : List OutboundFrame}
    (h : n ≤ (frames.filter (·.isQueued)).length) (rest : List OutboundFrame) :
    behind n (frames ++ rest) = behind n frames ++ rest := by
  induction frames generalizing n with
  | nil =>
    obtain rfl : n = 0 := Nat.le_zero.mp h
    rw [behind_zero, behind_zero]
  | cons f frames ih =>
    cases n with
    | zero => rfl
    | succ n =>
      rw [List.cons_append, behind, behind]
      by_cases hf : f.isQueued = true
      · rw [List.filter_cons_of_pos hf] at h
        rw [if_pos hf, if_pos hf, ih (Nat.le_of_succ_le_succ h)]
      · rw [List.filter_cons_of_neg hf] at h
        rw [if_neg hf, if_neg hf, ih h]

theorem behind_eq_nil {n : Nat} {frames : List OutboundFrame}
    (h : (frames.filter (·.isQueued)).length < n) : behind n frames = [] := by
  induction frames generalizing n with
  | nil => cases n <;> rfl
  | cons f frames ih =>
    cases n with
    | zero => cases h
    | succ n =>
      rw [behind]
      by_cases hf : f.isQueued = true
      · rw [List.filter_cons_of_pos hf] at h
        rw [if_pos hf, ih (Nat.lt_of_succ_lt_succ h)]
      · rw [List.filter_cons_of_neg hf] at h
        rw [if_neg hf, ih h]

/-- A frame without audio adds no audio. -/
theorem audio_behind_append {f : OutboundFrame} (hf : f.audio? = none) (n : Nat)
    (frames : List OutboundFrame) :
    (behind n (frames ++ [f])).filterMap (·.audio?) = (behind n frames).filterMap (·.audio?) := by
  induction frames generalizing n with
  | nil =>
    cases n with
    | zero => simp [hf]
    | succ n => cases n <;> simp [behind]
  | cons g frames ih =>
    cases n with
    | zero =>
      rw [behind_zero, behind_zero, List.filterMap_append]
      simp [hf]
    | succ n =>
      rw [List.cons_append, behind, behind]
      split
      · exact ih n
      · exact ih (n + 1)

namespace Connection

variable {c c' : Connection} {early : List Bytes} {n : Nat}

/-- The frames of audio are the early ones and those behind the first `n` texts and finish signals. -/
def Late (early : List Bytes) (n : Nat) (c : Connection) : Prop :=
  c.audioFrames = early ++ (behind n c.wire.sent).filterMap (·.audio?)

theorem Late.keep (h : c.Late early n) (hsent : c'.wire.sent = c.wire.sent) : c'.Late early n := by
  rw [Late, audioFrames, hsent]
  exact h

/-- What is sent is no audio. -/
theorem Late.sendOther {f : OutboundFrame} (h : c.Late early n) (hf : f.audio? = none)
    (hsent : c'.wire.sent = c.wire.sent ++ [f]) : c'.Late early n := by
  rw [Late, audioFrames_of_sent hsent, hf, hsent, audio_behind_append hf]
  exact (List.append_nil _).trans h

/-- Audio is sent when no text is left. -/
theorem Late.sendAudio {acc : List OutboundFrame} {f : OutboundFrame} (h : c.Late early n)
    (hn : n ≤ acc.length) (hreceived : c.received = acc)
    (hsent : c'.wire.sent = c.wire.sent ++ [f]) : c'.Late early n := by
  have hbehind : n ≤ (c.wire.sent.filter (·.isQueued)).length := by
    rw [← hreceived] at hn
    exact hn
  rw [Late, audioFrames_of_sent hsent, h, hsent, behind_append hbehind, List.filterMap_append,
    List.append_assoc]
  cases hf : f.audio? <;> simp [hf]

theorem Late.progress {ctx : LoopContext} {acc : List OutboundFrame} (h : c.Late early n)
    (hledger : c.Ledger acc) (hn : n ≤ acc.length) (hwired : c.Wired) (hp : Progress ctx c c') :
    c'.Late early n := by
  cases hp with
  | sent log phase attempt =>
    cases attempt with
    | text _ _ _ outbox =>
      have hf := hwired.outbox _ (by rw [outbox]; exact List.mem_cons_self)
      exact h.sendOther (OutboundFrame.audio?_of_isQueued hf) rfl
    | close => exact h.sendOther (f := .close) rfl rfl
    | audio _ _ _ outbox =>
      have hbalance := hledger.balance (by simp [phase])
      rw [outbox, List.append_nil] at hbalance
      exact h.sendAudio hn hbalance rfl
    | ping => exact h.sendOther (f := .ping []) rfl rfl
  | lost log phase attempt => exact h.keep (by cases attempt <;> rfl)
  | _ => exact h.keep rfl

end Connection

namespace Bridge

theorem late_change {acc : List OutboundFrame} {early : List Bytes} {n : Nat} {b : Bridge}
    {c c' : Connection} {m : Move} (hwired : c.Wired) (hledger : c.Ledger acc) (hn : n ≤ acc.length)
    (h : c.Late early n) (hchange : Change b c m c') : c'.Late early n := by
  cases hchange with
  | call => exact h.keep (by rw [(Connection.CallFrame.perform c b.queues _).wire])
  | @far call =>
    obtain ⟨_, _, hfar⟩ := c.farCall_eq call
    exact h.keep (by rw [hfar])
  | takenUp => exact h.keep (takenUp_audio b c).1
  | progress running progress => exact h.progress hledger hn hwired progress
  | _ => exact h.keep rfl

/-- Once the first `n` texts and signals are accepted, audio arrives behind them. -/
theorem late_play {id : String} {early : List Bytes} {n : Nat} (moves : List Move) {b : Bridge}
    {c : Connection} {acc : List OutboundFrame}
    (hb : ∀ c ∈ b.roster, c.Standing b.queues.stopped ∧ c.Wired) (hc : b.find? id = some c)
    (hledger : c.Ledger acc) (hn : n ≤ acc.length) (h : c.Late early n) :
    ∃ c', (b.play moves).find? id = some c' ∧ c'.Ledger (acc ++ b.record (accepts id) moves) ∧
      c'.Late early n := by
  obtain ⟨c', hc', hledger', _, hlate⟩ := exists_play_of_change (accepts id) acc
    (P := fun c acc => c.Ledger acc ∧ n ≤ acc.length ∧ c.Late early n)
    (fun {b m c c' acc} hc _ hstanding hwired hchange ⟨hledger, hn, hlate⟩ => by
      have hid := id_of_find? hc
      subst hid
      refine ⟨ledger_change hc hstanding hwired hledger hchange, ?_,
        late_change hwired hledger hn hlate hchange⟩
      rw [List.length_append]
      exact Nat.le_add_right_of_le hn) moves hb hc ⟨hledger, hn, h⟩
  exact ⟨c', hc', hledger', hlate⟩

/-- A call of `finish` that is told `ok` adds its signal to what is accepted. -/
theorem record_accepts_finish {b : Bridge} {before : List Move} {id : String} {c : Connection}
    (hc : (b.play before).find? id = some c) (hheld : c.held = true)
    (hok : (c.finish (b.play before).queues).1 = .ok ()) :
    b.record (accepts id) (before ++ [.act (.call id .finish)]) =
      b.record (accepts id) before ++ [c.config.profile.finish.frame] := by
  have hlast : (b.play before).accepts id (.act (.call id .finish)) =
      [c.config.profile.finish.frame] := by
    rw [accepts, hc]
    dsimp only
    rw [if_pos ⟨rfl, hheld⟩, Connection.accepted, hok]
    rfl
  rw [record_append, record, record, List.append_nil, hlast]

/-- No audio is behind the signal when the call returns. -/
theorem late_finish {config : ServiceConfig} {before : List Move} {id : String} {c : Connection}
    (hc : (play { config } before).find? id = some c) (hheld : c.held = true)
    (hok : (c.finish (play { config } before).queues).1 = .ok ()) :
    ∃ c₁, (play { config } (before ++ [.act (.call id .finish)])).find? id = some c₁ ∧
      c₁.audio = c.audio ∧
      c₁.Late c₁.audioFrames
        (record (accepts id) { config } (before ++ [.act (.call id .finish)])).length := by
  have hframe := Connection.CallFrame.perform c (play { config } before).queues .finish
  have hfind : (play { config } (before ++ [.act (.call id .finish)])).find? id =
      some (c.perform (play { config } before).queues .finish).2.1 := by
    rw [play_append]
    exact find?_call_held hc hheld .finish
  refine ⟨_, hfind, Connection.audio_finish c _, ?_⟩
  have hbefore : c.received.length < (record (accepts id) { config } before ++
      [c.config.profile.finish.frame]).length := by
    rw [List.length_append]
    exact Nat.lt_succ_of_le (ledger_play hc).begins.length_le
  rw [record_accepts_finish hc hheld hok, Connection.Late, hframe.wire, behind_eq_nil hbefore]
  exact (List.append_nil _).symm

end Bridge

/-- The audio behind a finish signal is the audio sent since the call that was told `ok`. There are
bytes among it that were written before that call exactly if such bytes were waiting then and what was
waiting is sent at all. In a settled bridge it is sent on a connected connection, within the reach of the
clock, unless it is dropped in an overrun. -/
theorem audio_behind_finish (config : ServiceConfig) (before after : List Move) (id : String)
    (c : Connection) (hc : (Bridge.play { config } before).find? id = some c) (hheld : c.held = true)
    (hok : (c.finish (Bridge.play { config } before).queues).1 = .ok ()) :
    let calls := before ++ [.act (.call id .finish)]
    let accepted := Bridge.record (Bridge.accepts id) { config } calls
    let earlier := Bridge.record (Bridge.audioMarks id) { config } before
    let later := (Bridge.play { config } calls).record (Bridge.audioMarks id) after
    let b := Bridge.play { config } (calls ++ after)
    accepted.getLast? = some c.config.profile.finish.frame ∧
    (AudioMark.waitingOf earlier).map Prod.fst = c.audio.pending ∧
    ((∀ frame ∈ AudioMark.framesAfter earlier later, ∀ p ∈ frame, p.2 ≠ .inTime) ↔
      (∀ p ∈ AudioMark.waitingOf earlier, p.2 ≠ .inTime) ∨ AudioMark.carried later = false) ∧
    ((∀ frame ∈ AudioMark.framesAfter earlier later, ∀ p ∈ frame, p.2 = .late) ↔
      c.audio.pending = [] ∨ AudioMark.carried later = false) ∧
    ∃ c', b.find? id = some c' ∧
      (c'.wire.sent.filter (·.isQueued)).take accepted.length <+: accepted ∧
      (behind accepted.length c'.wire.sent).filterMap (·.audio?) =
        (AudioMark.framesAfter earlier later).map (List.map Prod.fst) ∧
      (b.queues.stopped = false → b.Settled → b.ClockReaches c'.config.profile →
        c'.state = .connected → .lost ∉ later → c.audio.pending ≠ [] →
        AudioMark.carried later = true) := by
  intro calls accepted earlier later b
  have haccepted : accepted =
      Bridge.record (Bridge.accepts id) { config } before ++ [c.config.profile.finish.frame] :=
    Bridge.record_accepts_finish hc hheld hok
  have hwired := Connection.wired_kept.play config calls
  obtain ⟨c₁, hc₁, haudio, hlate⟩ := Bridge.late_finish hc hheld hok
  obtain ⟨c', hc', hledger, hlate'⟩ :=
    Bridge.late_play after hwired hc₁ (Bridge.ledger_play hc₁) le_rfl hlate
  obtain ⟨d, hd, hframes, hpending⟩ := Bridge.marked_play after hwired hc₁
  rw [hc'] at hd
  cases hd
  have hreplay := Bridge.replay_run config before hc
  have hwaits : (AudioMark.replay [] earlier).2 = c.audio.pending := congrArg Prod.snd hreplay
  rw [haudio] at hframes hpending
  refine ⟨?_, ?_, AudioMark.framesAfter_iff (P := (· ≠ .inTime)) (by simp) earlier later, ?_, c', ?_,
    ?_, ?_, ?_⟩
  · rw [haccepted, List.getLast?_concat]
  · rw [AudioMark.map_fst_waitingOf, hwaits]
  · rw [AudioMark.framesAfter_late_iff, hwaits]
  · rw [← hc', ← Bridge.play_append]
  · have hbegins := hledger.begins.take accepted.length
    rw [List.take_left] at hbegins
    exact hbegins
  · rw [AudioMark.map_fst_framesAfter, hwaits]
    exact List.append_cancel_left (hlate'.symm.trans hframes)
  · intro hrunning hsettled hreach hs hlost hne
    have hmem := List.mem_of_find?_eq_some hc'
    rw [← Bridge.play_append] at hmem
    have hdriven := Bridge.isDriven_of_state hmem hrunning hreach (.inl hs)
    have hnothing := ((hsettled.idle hrunning c' hmem).work hs hdriven).2.1
    rw [AudioBuffer.pending_eq_nil hnothing] at hpending
    exact AudioMark.carried_of_replay_eq_nil hlost hne hpending.symm

/-- Audio is written on the open connection and not yet sent. -/
def speaking : List Move :=
  [.act (.create "a" { sessionId := "a", host := "far", audioCapacity := 8, headerReserve := 2 } none),
    .act (.call "a" .connect), .loop, .wait 1, .errand 0 .dial,
    .act (.call "a" (.audio [[1, 2, 3]] none))]

/-- The signal of a call right after the write overtakes it. -/
theorem audio_behind_finish_speaking :
    ∃ c', (Bridge.play { config := {} }
        (speaking ++ [.act (.call "a" .finish)] ++
          [.loop, .errand 0 .turn, .errand 0 .turn])).find? "a" = some c' ∧
      (c'.wire.sent.filter (·.isQueued)).take 1 <+: [.text "stop"] ∧
      (behind 1 c'.wire.sent).filterMap (·.audio?) = [[1, 2, 3]] := by
  have hsome : ((Bridge.play { config := {} } speaking).find? "a").isSome = true := by decide +kernel
  obtain ⟨c, hc⟩ := Option.isSome_iff_exists.mp hsome
  have hready : ∀ c ∈ (Bridge.play { config := {} } speaking).roster, c.held = true ∧
      (c.finish (Bridge.play { config := {} } speaking).queues).1 = .ok () := by decide +kernel
  obtain ⟨hheld, hok⟩ := hready c (List.mem_of_find?_eq_some hc)
  have haccepted : Bridge.record (Bridge.accepts "a") { config := {} }
      (speaking ++ [.act (.call "a" .finish)]) = [.text "stop"] := by decide +kernel
  have hframes : (AudioMark.framesAfter
      (Bridge.record (Bridge.audioMarks "a") { config := {} } speaking)
      ((Bridge.play { config := {} } (speaking ++ [.act (.call "a" .finish)])).record
        (Bridge.audioMarks "a") [.loop, .errand 0 .turn, .errand 0 .turn])) =
      [[(1, .inTime), (2, .inTime), (3, .inTime)]] := by decide +kernel
  obtain ⟨_, _, _, _, c', hc', hsignal, hbehind, _⟩ :=
    audio_behind_finish {} speaking [.loop, .errand 0 .turn, .errand 0 .turn] "a" c hc hheld hok
  rw [haccepted] at hsignal hbehind
  rw [hframes] at hbehind
  exact ⟨c', hc', hsignal, hbehind⟩

end VoiceBridge
