import VoiceBridge.Proofs.Run.LeftAlone
import VoiceBridge.Proofs.Run.Outbox

/-!
# The first frame on the wire

A text that is queued on a connection on which nothing has been said yet (`Unspoken`) is the first frame
its far end receives, pings apart (`Announced`). Both stay while the connection is left alone, and
`Announced` stays whatever calls follow: the outbox is emptied in order, and before audio and before the
close frame.
-/

namespace VoiceBridge

namespace Connection

variable {ctx : LoopContext} {c c' : Connection} {q : Requests} {text : String}

/-- The frames that the far end received, pings apart. -/
def spoken (c : Connection) : List OutboundFrame := c.wire.sent.filter (!·.isPing)

/-- Nobody has asked for a close. -/
structure Unclosed (c : Connection) : Prop where
  steady : c.state ≠ .disconnecting
  unnoted : c.closeAfterConnect = false

/-- Nothing was said, and there is nothing to say. -/
structure Unspoken (c : Connection) : Prop where
  spoken : c.spoken = []
  outbox : c.outbox = []
  audio : c.audio.hasPending = false
  unclosed : c.Unclosed

/-- The text is the first to be said. It may still wait, and with an ended connection it is lost. -/
inductive Announced (text : String) (c : Connection) : Prop
  | said (first : c.spoken.head? = some (.text text))
  | queued (silent : c.spoken = []) (ahead : c.outbox.head? = some (.text text))
  | lost (silent : c.spoken = []) (phase : c.phase = .over)

/-- On a new connection nothing was said, and nobody waits. -/
theorem unspoken_of_create {id : String} {config : ConnectionConfig} {panicsOn : Option String}
    (h : Connection.create id config panicsOn = .ok c) : c.Attended ∧ c.Unspoken := by
  obtain ⟨audio, haudio, rfl⟩ := create_eq h
  have hempty : audio.hasPending = false := by
    unfold AudioBuffer.create at haudio
    split at haudio
    · cases haudio
    · cases haudio
      exact decide_eq_false (Nat.lt_irrefl _)
  exact ⟨⟨rfl, fun _ => nofun⟩, rfl, rfl, hempty, nofun, rfl⟩

/-! ### While the connection is left alone -/

theorem Standing.state_of_over (h : c.Standing false) (hover : c.phase = .over) (hwhole : ¬c.CutOff) :
    c.state = .failed ∨ c.state = .disconnected := by
  cases h with
  | failed _ state => exact .inl state
  | dropped _ state => exact state.symm
  | closed _ state => exact .inr state
  | cutDialling stopped => cases stopped
  | cutLive phase _ outcome => exact absurd ⟨phase, outcome⟩ hwhole
  | _ => simp_all

theorem Unclosed.of_over (h : c.Standing false) (hwhole : ¬c.CutOff) (hover : c.phase = .over)
    (hunnoted : c.closeAfterConnect = false) : c.Unclosed := by
  refine ⟨?_, hunnoted⟩
  obtain hs | hs := h.state_of_over hover hwhole <;> simp [hs]

theorem keptAlone_unclosed : KeptAlone (fun _ => True) Unclosed where
  progress {_ c c'} _ hstanding h hc := by
    have hafter := hstanding.progress h
    cases h with
    | refused => exact .of_over hafter (fun hcut => by cases hcut.outcome) rfl hc.unnoted
    | opened => exact ⟨by simp [hc.unnoted], hc.unnoted⟩
    | sent log phase attempt => cases attempt <;> exact ⟨hc.steady, hc.unnoted⟩
    | lost log phase attempt =>
      refine .of_over hafter (fun hcut => by cases hcut.outcome) rfl ?_
      cases attempt <;> exact hc.unnoted
    | ended | expired => exact .of_over hafter (fun hcut => by cases hcut.outcome) rfl hc.unnoted
    | _ => exact ⟨hc.steady, hc.unnoted⟩
  dialled _ _ _ hc := ⟨nofun, hc.unnoted⟩
  stirred _ _ _ _ hc := ⟨hc.steady, hc.unnoted⟩

theorem spoken_sending (net : Network) (c : Connection) (f : OutboundFrame) :
    (c.wire.sending net f).sent.filter (!·.isPing) =
      c.spoken ++ if f.isPing then [] else [f] := by
  unfold spoken Wire.sending
  cases hf : f.isPing <;> simp [hf]

/-- The driver adds to what was said, or leaves it. -/
theorem Progress.spoken (h : Progress ctx c c') : c.spoken <+: c'.spoken := by
  cases h with
  | sent =>
    change c.spoken <+: (Wire.sending _ _ _).sent.filter (!·.isPing)
    rw [spoken_sending]
    exact List.prefix_append _ _
  | lost log phase attempt => cases attempt <;> exact List.prefix_rfl
  | _ => exact List.prefix_rfl

theorem keptAlone_unspoken : KeptAlone (fun _ => True) Unspoken where
  progress {ctx c c'} hctx hstanding h hc := by
    have hunclosed := keptAlone_unclosed.progress hctx hstanding h hc.unclosed
    cases h with
    | sent log phase attempt =>
      cases attempt with
      | text _ _ _ outbox => simp [hc.outbox] at outbox
      | close _ _ _ _ state => exact absurd state hc.unclosed.steady
      | audio _ _ _ _ _ pending => simp [hc.audio] at pending
      | ping =>
        refine ⟨?_, hc.outbox, hc.audio, hunclosed⟩
        exact (spoken_sending _ c _).trans (by rw [hc.spoken]; rfl)
    | lost log phase attempt =>
      cases attempt with
      | text _ _ _ outbox => simp [hc.outbox] at outbox
      | close _ _ _ _ state => exact absurd state hc.unclosed.steady
      | audio _ _ _ _ _ pending => simp [hc.audio] at pending
      | ping => exact ⟨hc.spoken, hc.outbox, hc.audio, hunclosed⟩
    | quiet => exact ⟨hc.spoken, rfl, hc.audio, hunclosed⟩
    | _ => exact ⟨hc.spoken, hc.outbox, hc.audio, hunclosed⟩
  dialled {c} b hstanding hidle hc :=
    ⟨hc.spoken, hc.outbox, AudioBuffer.hasPending_reset c.audio,
      keptAlone_unclosed.dialled b hstanding hidle hc.unclosed⟩
  stirred writable writeQueued inbound collected hc :=
    ⟨hc.spoken, hc.outbox, hc.audio,
      keptAlone_unclosed.stirred writable writeQueued inbound collected hc.unclosed⟩

theorem keptAlone_announced (text : String) : KeptAlone (fun _ => True) (Announced text) where
  progress {ctx c c'} _ hstanding h hc := by
    cases hc with
    | said first =>
      obtain ⟨more, hmore⟩ := h.spoken
      refine .said ?_
      rw [← hmore, List.head?_append, first]
      rfl
    | lost _ phase =>
      have hdriven := h.isDriven
      simp [isDriven, phase] at hdriven
    | queued silent ahead =>
      obtain ⟨rest, hout⟩ := List.head?_eq_some_iff.mp ahead
      -- With the text in the outbox, neither audio nor the close frame has its turn.
      have hnonempty : c.outbox ≠ [] := by simp [hout]
      cases h with
      | quiet _ _ _ _ outbox => exact absurd outbox hnonempty
      | sent log phase attempt =>
        cases attempt with
        | close _ _ _ outbox => exact absurd outbox hnonempty
        | audio _ _ _ outbox => exact absurd outbox hnonempty
        | text _ _ _ outbox =>
          rw [hout] at outbox
          cases outbox
          refine .said ?_
          change ((Wire.sending _ _ _).sent.filter (!·.isPing)).head? = _
          rw [spoken_sending, silent]
          rfl
        | ping =>
          refine .queued ?_ ahead
          exact (spoken_sending _ c _).trans (by rw [silent]; rfl)
      | lost log phase attempt => cases attempt <;> exact .lost silent rfl
      | refused | ended | expired | broken => exact .lost silent rfl
      | _ => exact .queued silent ahead
  dialled b hstanding hidle hc := by
    cases hc with
    | said first => exact .said first
    | queued silent ahead => exact .queued silent ahead
    | lost _ phase =>
      rw [(hstanding.of_idle hidle).1] at phase
      cases phase
  stirred _ _ _ _ hc := by
    cases hc with
    | said first => exact .said first
    | queued silent ahead => exact .queued silent ahead
    | lost silent phase => exact .lost silent phase

/-! ### Calls -/

/-- No call sends anything itself. -/
theorem spoken_perform (c : Connection) (q : Requests) (call : Call) :
    (c.perform q call).2.1.spoken = c.spoken := by
  rw [spoken, (CallFrame.perform c q call).wire, spoken]

/-- What a call accepts comes behind the announcement. -/
theorem Announced.perform (h : c.Announced text) (hq : q.stopped = false) (call : Call) :
    (c.perform q call).2.1.Announced text := by
  have hspoken := spoken_perform c q call
  cases h with
  | said first => exact .said (hspoken ▸ first)
  | queued silent ahead =>
    refine .queued (hspoken.trans silent) ?_
    rw [outbox_perform call fun _ => hq, List.head?_append, ahead]
    rfl
  | lost silent phase =>
    exact .lost (hspoken.trans silent) ((CallFrame.perform c q call).phase.trans phase)

/-- The first text to be accepted is an announcement; one that is refused changes nothing. -/
theorem Unspoken.queueText (h : c.Unspoken) (text : String) (hq : q.stopped = false) :
    (c.queueText text q).1 = .ok () ∧ (c.queueText text q).2.1.Announced text ∨
      (∃ e, (c.queueText text q).1 = .error e) ∧ (c.queueText text q).2.1.Unspoken := by
  have houtbox := outbox_queueText (c := c) (q := q) text fun _ => hq
  have hspoken : (c.queueText text q).2.1.spoken = c.spoken := spoken_perform c q (.text text)
  cases hresult : (c.queueText text q).1 with
  | ok =>
    refine .inl ⟨rfl, .queued (hspoken.trans h.spoken) ?_⟩
    rw [houtbox, h.outbox, hresult]
    rfl
  | error e =>
    rw [hresult, h.outbox] at houtbox
    refine .inr ⟨⟨e, rfl⟩, hspoken.trans h.spoken, houtbox, ?_, ?_⟩
    · obtain ⟨-, heq⟩ | ⟨-, _, heq⟩ := queueText_effect c text q <;> rw [heq] <;> exact h.audio
    · obtain ⟨-, heq⟩ | ⟨-, _, heq⟩ := queueText_effect c text q <;> rw [heq] <;>
        exact ⟨h.unclosed.steady, h.unclosed.unnoted⟩

theorem Unclosed.perform (h : c.Unclosed) {call : Call} (hcall : call.asksToClose = false) :
    (c.perform q call).2.1.Unclosed := by
  obtain ⟨hstate, hnoted⟩ := (scope_perform c q call).closing.resolve_right (by simp [hcall])
  exact ⟨hstate ▸ h.steady, hnoted ▸ h.unnoted⟩

/-- Whoever still has the handle goes on being told. -/
theorem attended_kept : KeptByCalls (fun c _ => c.held = true → c.Attended)
    (fun c _ => c.held = true → c.Attended) where
  connect {c q} h := by
    obtain ⟨_, heq⟩ := connect_effect c q
    rw [heq]
    exact fun hheld => (h hheld).congr hheld rfl rfl rfl
  close {c q} h := by
    obtain ⟨_, _, heq⟩ := close_effect c q
    rw [heq]
    exact fun hheld => (h hheld).congr hheld rfl rfl rfl
  subscribe {c q} h hheld := by
    refine ⟨hheld, fun hwhole w hw => ?_⟩
    change w = c.outcome.elim .pending .resolved
    rw [waits_subscribed, List.mem_append, List.mem_singleton] at hw
    obtain hw | rfl := hw
    · exact (h hheld).told (fun hcut => hwhole ⟨hcut.phase, hcut.outcome⟩) w hw
    · cases c.outcome <;> rfl
  finish {c q} h := by
    obtain ⟨-, heq⟩ | ⟨-, _, heq⟩ := finish_effect c q <;> rw [heq] <;>
      exact fun hheld => (h hheld).congr hheld rfl rfl rfl
  queueText {c q} s h := by
    obtain ⟨-, heq⟩ | ⟨-, _, heq⟩ := queueText_effect c s q <;> rw [heq] <;>
      exact fun hheld => (h hheld).congr hheld rfl rfl rfl
  queueHeld {c q} s h := by
    obtain ⟨-, heq⟩ | ⟨-, _, heq⟩ := queueText_effect c s q <;> rw [heq] <;>
      exact fun hheld => (h hheld).congr hheld rfl rfl rfl
  warn _ h hheld := (h hheld).congr hheld rfl rfl rfl
  drop {c q} h := by
    obtain ⟨_, heq⟩ := dropHandle_effect c
    rw [heq]
    exact fun hheld => by cases hheld
  hold h := h
  write {c q} chunk h := by
    obtain ⟨_, _, heq⟩ := writeAudio_effect c chunk
    rw [heq]
    exact fun hheld => (h hheld).congr hheld rfl rfl rfl
  commit _ _ h hheld := (h hheld).congr hheld rfl rfl rfl
  release {c q} h := by
    obtain ⟨_, heq⟩ := releaseAudio_effect c q
    rw [heq]
    exact fun hheld => (h hheld).congr hheld rfl rfl rfl

theorem Attended.perform (h : c.Attended) {call : Call} (hcall : call ≠ .drop) :
    (c.perform q call).2.1.Attended := by
  have hheld := (scope_perform c q call).held.resolve_right fun hdrop => hcall hdrop.1
  exact attended_kept.perform (c := c) (q := q) call (fun _ => h) (hheld.trans h.held)

/-- Who closes and is not refused waits for the end. -/
theorem waits_closeWithCompletion (hok : (c.closeWithCompletion q).1 = .ok ()) :
    (c.closeWithCompletion q).2.1.waits ≠ [] := by
  obtain ⟨-, hafter⟩ | ⟨⟨e, he⟩, hafter⟩ := closeWithCompletion_cases c q
  · rw [hafter]
    simp [waits_subscribed]
  · rw [hafter, he] at hok
    cases hok

/-! ### What those who wait are told -/

/-- Who waits and has been answered was told the outcome of the connection, unless the driver was cut off. -/
theorem Attended.last_told (h : c.Attended) (hwhole : ¬c.CutOff) (hwaits : c.waits ≠ [])
    (hlast : c.waits.getLast? ≠ some .pending) :
    ∃ o, c.waits.getLast? = some (.resolved o) ∧ c.outcome = some o := by
  have hsome := List.getLast?_eq_getLast_of_ne_nil hwaits
  have htold := h.told hwhole _ (List.getLast_mem hwaits)
  rw [htold] at hsome
  cases houtcome : c.outcome with
  | none =>
    rw [houtcome] at hsome
    exact absurd hsome hlast
  | some o =>
    rw [houtcome] at hsome
    exact ⟨o, hsome, rfl⟩

end Connection

end VoiceBridge
