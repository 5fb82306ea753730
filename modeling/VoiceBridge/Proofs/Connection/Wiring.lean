import VoiceBridge.Proofs.Audio.Buffer
import VoiceBridge.Proofs.Run.Delivery

/-!
# What is on the wire

The driver knows whether its close frame is on the wire, nothing is sent before the wire is open, and
once the close frame is sent there is no text left and none can be queued. Like good standing, this is
broken by nothing that happens to a connection (`wired_kept`).
-/

namespace VoiceBridge

/-- The frames that wait in an outbox: texts and finish signals. Audio is never sent empty. -/
def OutboundFrame.isQueued : OutboundFrame → Bool
  | .text _ => true
  | .binary bytes => bytes.isEmpty
  | .ping _ | .close => false

theorem FinishSignal.isQueued_frame (signal : FinishSignal) : signal.frame.isQueued = true := by
  cases signal <;> rfl

/-- The far end answers neither text nor audio by itself. -/
theorem Wire.echo_of_isQueued (net : Network) {f : OutboundFrame} (h : f.isQueued = true) :
    echo net f = [] := by
  cases f with
  | text => rfl
  | binary => rfl
  | ping => cases h
  | close => cases h

theorem Wire.length_echo_le (net : Network) (f : OutboundFrame) : (echo net f).length ≤ 1 := by
  cases f with
  | text => exact Nat.zero_le 1
  | binary => exact Nat.zero_le 1
  | ping bytes => unfold echo; dsimp only; split <;> simp
  | close => unfold echo; dsimp only; split <;> simp

namespace Connection

/-- The driver's view of its wire, and what a close frame on the wire says of the connection. -/
structure Wired (c : Connection) : Prop where
  audio : c.audio.IsSound
  outbox : ∀ f ∈ c.outbox, f.isQueued = true
  closeSent : ∀ s, c.phase = .live s → (s.closeSent = true ↔ .close ∈ c.wire.sent)
  closing : .close ∈ c.wire.sent →
    c.outbox = [] ∧ (c.state = .disconnecting ∨ c.state = .disconnected)
  unopened : (∀ s, c.phase ≠ .live s) → c.phase ≠ .over → c.wire.sent = []

variable {c c' : Connection} {q q' : Requests}

/-- A call may queue one more frame unless the connection is closing. -/
theorem Wired.frame (h : c.Wired) (hf : CallFrame c q c' q') (ha : c'.audio.IsSound)
    (ho : c'.outbox = c.outbox ∨
      c.takesText = true ∧ ∃ f, f.isQueued = true ∧ c'.outbox = c.outbox ++ [f]) : c'.Wired where
  audio := ha
  outbox f hmem := by
    rcases ho with ho | ⟨_, g, hg, ho⟩
    · exact h.outbox f (ho ▸ hmem)
    · rw [ho] at hmem
      rcases List.mem_append.mp hmem with hmem | hmem
      · exact h.outbox f hmem
      · rw [List.mem_singleton.mp hmem]
        exact hg
  closeSent s hp := by
    rw [hf.phase] at hp
    rw [hf.wire]
    exact h.closeSent s hp
  closing hclose := by
    rw [hf.wire] at hclose
    obtain ⟨hnil, hs⟩ := h.closing hclose
    have houtbox : c'.outbox = c.outbox := by
      rcases ho with ho | ⟨htakes, _⟩
      · exact ho
      · rcases hs with hs | hs <;> simp [takesText, hs, ConnectionState.isTerminal] at htakes
    refine ⟨houtbox.trans hnil, ?_⟩
    rcases hf.state with hstate | ⟨hconn, _⟩
    · rw [hstate]
      exact hs
    · simp [hconn] at hs
  unopened hp hp' := by
    rw [hf.phase] at hp hp'
    rw [hf.wire]
    exact h.unopened hp hp'

theorem wired_queueText (s : String) (h : c.Wired) : (c.queueText s q).2.1.Wired := by
  rcases queueText_effect c s q with ⟨_, heq⟩ | ⟨htakes, _, heq⟩
  · rw [heq]
    exact h
  · exact h.frame (.queueText c s q) (by rw [heq]; exact h.audio)
      (.inr ⟨htakes, .text s, rfl, by rw [heq]⟩)

theorem wired_perform (call : Call) (h : c.Wired) : (c.perform q call).2.1.Wired := by
  have hkept : KeptByCalls (fun c _ => c.Wired) (fun c _ => c.Wired) :=
    { connect := fun {c q} h => by
        obtain ⟨_, heq⟩ := connect_effect c q
        exact h.frame (.connect c q) (by rw [heq]; exact h.audio) (.inl (by rw [heq]))
      close := fun {c q} h => by
        obtain ⟨_, _, heq⟩ := close_effect c q
        exact h.frame (.close c q) (by rw [heq]; exact h.audio) (.inl (by rw [heq]))
      subscribe := fun h => ⟨h.audio, h.outbox, h.closeSent, h.closing, h.unopened⟩
      finish := fun {c q} h => by
        rcases finish_effect c q with ⟨_, heq⟩ | ⟨hs, _, heq⟩
        · rw [heq]
          exact h
        · exact h.frame (.finish c q) (by rw [heq]; exact h.audio)
            (.inr ⟨by simp [takesText, hs, ConnectionState.isTerminal], _,
              FinishSignal.isQueued_frame _, by rw [heq]⟩)
      queueText := fun {c q} s h => wired_queueText s h
      queueHeld := fun {c q} s h => wired_queueText s h
      warn := fun _ h => ⟨h.audio, h.outbox, h.closeSent, h.closing, h.unopened⟩
      drop := fun {c q} h => by
        obtain ⟨_, heq⟩ := dropHandle_effect c
        exact h.frame (.dropHandle c q) (by rw [heq]; exact h.audio) (.inl (by rw [heq]))
      hold := fun h => h
      write := fun {c q} chunk h => by
        obtain ⟨_, _, heq⟩ := writeAudio_effect c chunk
        exact h.frame (.writeAudio c chunk q) (by rw [heq]; exact h.audio.write chunk)
          (.inl (by rw [heq]))
      commit := fun bytes count h =>
        ⟨(h.audio.fillSlot bytes).advance _, h.outbox, h.closeSent, h.closing, h.unopened⟩
      release := fun {c q} h => by
        obtain ⟨_, heq⟩ := releaseAudio_effect c q
        exact h.frame (.releaseAudio c q) (by rw [heq]; exact h.audio) (.inl (by rw [heq])) }
  exact hkept.perform call h

theorem close_mem_append {f : OutboundFrame} {sent : List OutboundFrame} (hf : f ≠ .close) :
    .close ∈ sent ++ [f] ↔ .close ∈ sent := by
  rw [List.mem_append, List.mem_singleton, or_iff_left (Ne.symm hf)]

theorem ne_close_of_isQueued {f : OutboundFrame} (h : f.isQueued = true) : f ≠ .close := by
  rintro rfl
  cases h

/-- A driver whose wire is open goes on without a close frame being sent. -/
theorem Wired.goOn {s s' : Session} (h : c.Wired) (hp : c.phase = .live s)
    (hp' : c'.phase = .live s') (ha : c'.audio.IsSound) (hs : c'.state = c.state)
    (ho : c'.outbox <:+ c.outbox) (hsent : .close ∈ c'.wire.sent ↔ .close ∈ c.wire.sent)
    (hclose : s'.closeSent = s.closeSent) : c'.Wired where
  audio := ha
  outbox f hf := h.outbox f (ho.mem hf)
  closeSent s'' hp'' := by
    rw [hp'] at hp''
    cases hp''
    rw [hclose, hsent]
    exact h.closeSent s hp
  closing hmem := by
    obtain ⟨hnil, hstate⟩ := h.closing (hsent.mp hmem)
    rw [hnil] at ho
    exact ⟨List.suffix_nil.mp ho, hs ▸ hstate⟩
  unopened hopen := absurd hp' (hopen s')

/-- A driver that ends sends nothing more. -/
theorem Wired.ended {s : Session} (h : c.Wired) (hstanding : c.Standing false)
    (hp : c.phase = .live s) (ha : c'.audio.IsSound) (ho : c'.outbox <:+ c.outbox)
    (hsent : c'.wire.sent = c.wire.sent) {e : Ending} {final : ConnectionState} {last : EventKind}
    {o : TerminalOutcome} (hv : e.verdict? c.graceful c.state = some (final, last))
    (log : List LogLine) : (c'.finished final last o log).Wired where
  audio := ha
  outbox f hf := h.outbox f (ho.mem hf)
  closeSent s hp := by cases hp
  closing hmem := by
    change .close ∈ c'.wire.sent at hmem
    rw [hsent] at hmem
    obtain ⟨hnil, _⟩ := h.closing hmem
    rw [hnil] at ho
    refine ⟨List.suffix_nil.mp ho, ?_⟩
    have hclosing : c.state = .disconnecting := by
      rcases hstanding.state_of_live hp with hs | hs
      · have hclosed := (h.closeSent s hp).mpr hmem
        rw [hstanding.closeSent_of_connected hp hs] at hclosed
        cases hclosed
      · exact hs
    rw [hclosing] at hv
    cases hv
    exact .inr rfl
  unopened _ hp := absurd rfl hp

theorem Wired.progress {ctx : LoopContext} (h : c.Wired) (hstanding : c.Standing false)
    (hp : Progress ctx c c') : c'.Wired := by
  cases hp with
  | @refused since delay e log phase =>
    have hnil : c.wire.sent = [] := h.unopened (by simp [phase]) (by simp [phase])
    exact ⟨h.audio, h.outbox, fun s hp => by (cases hp),
      fun hmem => by simp [Connection.finished, hnil] at hmem, fun _ hp => absurd rfl hp⟩
  | opened log phase =>
    have hnil : c.wire.sent = [] := h.unopened (by simp [phase]) (by simp [phase])
    refine ⟨h.audio, h.outbox, fun s hp => ?_, fun hmem => by simp [hnil] at hmem,
      fun hp => absurd rfl (hp _)⟩
    cases hp
    simp [Session.begin, hnil]
  | spent phase => exact h.goOn phase phase h.audio rfl List.suffix_rfl Iff.rfl rfl
  | quiet log phase _ _ outbox =>
    exact h.goOn phase phase h.audio rfl (List.nil_suffix) Iff.rfl rfl
  | sent log phase attempt =>
    cases attempt with
    | text _ _ _ outbox =>
      have hf := ne_close_of_isQueued (h.outbox _ (by rw [outbox]; exact List.mem_cons_self))
      exact h.goOn phase phase h.audio rfl (by rw [outbox]; exact List.suffix_cons _ _)
        (close_mem_append hf) rfl
    | close _ _ _ outbox state =>
      refine ⟨h.audio.reset, by simp [turned], fun s hp => ?_, fun _ => ⟨rfl, .inl state⟩,
        fun hp => absurd rfl (hp _)⟩
      cases hp
      simp [Wire.sending]
    | audio =>
      exact h.goOn phase phase h.audio.reset rfl List.nil_suffix (close_mem_append (by simp)) rfl
    | ping => exact h.goOn phase rfl h.audio rfl List.suffix_rfl (close_mem_append (by simp)) rfl
  | lost log phase attempt fault verdict outcome =>
    cases attempt with
    | text _ _ _ outbox =>
      have hrest : _ <:+ c.outbox := outbox ▸ List.suffix_cons _ _
      refine h.ended hstanding phase ?_ ?_ ?_ verdict log
      · exact h.audio
      · exact hrest
      · rfl
    | close =>
      refine h.ended hstanding phase ?_ ?_ ?_ verdict log
      · exact h.audio.reset
      · exact List.nil_suffix
      · rfl
    | audio =>
      refine h.ended hstanding phase ?_ ?_ ?_ verdict log
      · exact h.audio.reset
      · exact List.nil_suffix
      · rfl
    | ping => exact h.ended hstanding phase h.audio List.suffix_rfl rfl verdict log
  | discarded phase => exact h.goOn phase rfl h.audio rfl List.suffix_rfl Iff.rfl rfl
  | taken log phase => exact h.goOn phase rfl h.audio rfl List.suffix_rfl Iff.rfl rfl
  | heard phase => exact h.goOn phase rfl h.audio rfl List.suffix_rfl Iff.rfl rfl
  | ended log phase _ _ verdict outcome =>
    refine h.ended hstanding phase ?_ ?_ ?_ verdict log
    · exact h.audio
    · exact List.suffix_rfl
    · rfl
  | expired log phase _ verdict outcome =>
    exact h.ended hstanding phase h.audio List.suffix_rfl rfl verdict log
  | broken phase =>
    exact ⟨h.audio, h.outbox, fun s hp => by (cases hp), h.closing, fun _ hp => absurd rfl hp⟩

theorem Wired.of_create {id : String} {config : ConnectionConfig} {panicsOn : Option String}
    (h : Connection.create id config panicsOn = .ok c) : c.Wired := by
  obtain ⟨_, haudio, rfl⟩ := create_eq h
  exact ⟨(AudioBuffer.IsSound.of_create haudio).withLowSpace _, by simp, fun s hp => by (cases hp),
    fun hmem => by simp at hmem, fun _ _ => rfl⟩

/-- Standing and wiring are broken by nothing that happens to a connection. -/
theorem wired_kept : Bridge.KeptByMoves fun stopped c => c.Standing stopped ∧ c.Wired where
  create h := ⟨.of_create h, .of_create h⟩
  call call h := ⟨standing_kept.call call h.1, wired_perform call h.2⟩
  far {_ c} call h := by
    refine ⟨standing_kept.far call h.1, ?_⟩
    obtain ⟨_, _, hfar⟩ := c.farCall_eq call
    rw [hfar]
    exact ⟨h.2.audio, h.2.outbox, h.2.closeSent, h.2.closing, h.2.unopened⟩
  takeConnect {c} b h := by
    refine ⟨standing_kept.takeConnect b h.1, ?_⟩
    by_cases hc : c.isAlive = true ∧ c.state = .idle
    · have habsent := (h.1.of_idle hc.2).1
      have hnil : c.wire.sent = [] := h.2.unopened (by simp [habsent]) (by simp [habsent])
      rw [Bridge.takeConnect_of_idle hc.1 hc.2]
      exact ⟨h.2.audio.beginCycle, h.2.outbox, fun s hp => by (cases hp),
        fun hmem => by simp [Bridge.dialled, hnil] at hmem, fun _ _ => hnil⟩
    · rw [Bridge.takeConnect_of_not hc]
      exact h.2
  takeDisconnect {c} h := by
    refine ⟨standing_kept.takeDisconnect h.1, ?_⟩
    rw [Bridge.takeDisconnect_eq]
    exact ⟨h.2.audio, h.2.outbox, h.2.closeSent, h.2.closing, h.2.unopened⟩
  takeWrite {c} h := by
    refine ⟨standing_kept.takeWrite h.1, ?_⟩
    rw [Bridge.takeWrite_eq]
    exact ⟨h.2.audio, h.2.outbox, h.2.closeSent, h.2.closing, h.2.unopened⟩
  seeTo hsee h :=
    ⟨standing_kept.seeTo hsee h.1, h.2.progress h.1 (progress_of_seeTo? h.1 hsee)⟩
  abandon h := ⟨standing_kept.abandon h.1,
    ⟨h.2.audio, h.2.outbox, h.2.closeSent, h.2.closing, h.2.unopened⟩⟩
  shutdown {c} h := by
    refine ⟨standing_kept.shutdown h.1, ?_⟩
    split
    · exact ⟨h.2.audio, h.2.outbox, fun s hp => by (cases hp), h.2.closing,
        fun _ hp => absurd rfl hp⟩
    · exact h.2

end Connection

end VoiceBridge
