import VoiceBridge.Proofs.Run.AudioHistory
import VoiceBridge.Proofs.Run.Outbox

/-!
# How a connection closes

From the moment at which a connection is disconnecting, its driver sends what is left in the outbox and
then the close frame. `Closing d c` says so of the connection `d` at that moment and of `c`, what has
become of it since; no move breaks it (`closing_play`). Audio that waits or is still written is not sent,
and nothing is delivered but the last event.

Nothing is sent behind a close frame (`Sealed`), and whoever finds one on the wire finds a call in the run
that asked for it (`exists_call_of_close`).
-/

namespace VoiceBridge

/-- No verdict leaves a connection disconnecting. -/
theorem Ending.final_ne_disconnecting {e : Ending} {graceful : Bool} {state final : ConnectionState}
    {last : EventKind} (h : e.verdict? graceful state = some (final, last)) :
    final ≠ .disconnecting := by
  rcases verdict_cases h with ⟨rfl, _⟩ | ⟨rfl | rfl, _⟩ <;> simp

theorem OutboundFrame.isPing_of_isQueued {f : OutboundFrame} (h : f.isQueued = true) :
    f.isPing = false := by
  cases f <;> first | rfl | cases h

namespace Connection

variable {c c' d : Connection} {q : Requests} {ctx : LoopContext}

/-! ### What is left to send -/

/-- What a closing connection has left to send, pings apart. -/
def leftToSend (c : Connection) : List OutboundFrame :=
  if .close ∈ c.wire.sent then [] else c.outbox ++ [.close]

theorem leftToSend_congr (hsent : c'.wire.sent = c.wire.sent) (houtbox : c'.outbox = c.outbox) :
    c'.leftToSend = c.leftToSend := by
  unfold leftToSend
  rw [hsent, houtbox]

/-- A connection that closes is disconnecting as long as its driver is at work. -/
theorem Standing.disconnecting_of_not_over {stopped : Bool} (h : c.Standing stopped)
    (hover : c.phase ≠ .over) (hs : c.state = .disconnecting ∨ c.state = .disconnected) :
    stopped = false ∧ c.state = .disconnecting := by
  cases h <;> simp_all

/-- A connection `c` that was disconnecting when it was `d`. -/
structure Closing (d c : Connection) : Prop where
  events : c.state = .disconnecting ∧ c.events = d.events ∨
    c.state = .disconnected ∧ c.events = d.events ++ [.connectionClosedGracefully]
  frames : ∃ new, c.wire.sent = d.wire.sent ++ new ∧
    new.filter (!·.isPing) <+: d.leftToSend ∧
    (c.phase ≠ .over → new.filter (!·.isPing) ++ c.leftToSend = d.leftToSend)

theorem Closing.refl (hs : c.state = .disconnecting) : Closing c c :=
  ⟨.inl ⟨hs, rfl⟩, [], (List.append_nil _).symm, List.nil_prefix, fun _ => rfl⟩

/-- Nothing is sent and nothing delivered. -/
theorem Closing.keep (h : Closing d c) (hs : c'.state = c.state) (he : c'.events = c.events)
    (hsent : c'.wire.sent = c.wire.sent)
    (hover : c'.phase ≠ .over → c.phase ≠ .over ∧ c'.outbox = c.outbox) : Closing d c' := by
  obtain ⟨new, hnew, hprefix, hleft⟩ := h.frames
  refine ⟨by rw [hs, he]; exact h.events, new, hsent.trans hnew, hprefix, fun hp => ?_⟩
  rw [leftToSend_congr hsent (hover hp).2]
  exact hleft (hover hp).1

/-- A frame is sent that comes first of what is left, or a ping. -/
theorem Closing.send {f : OutboundFrame} (h : Closing d c) (hs : c'.state = c.state)
    (he : c'.events = c.events) (hover : c.phase ≠ .over)
    (hsent : c'.wire.sent = c.wire.sent ++ [f])
    (hleft : [f].filter (!·.isPing) ++ c'.leftToSend = c.leftToSend) : Closing d c' := by
  obtain ⟨new, hnew, _, hbefore⟩ := h.frames
  have hall : (new ++ [f]).filter (!·.isPing) ++ c'.leftToSend = d.leftToSend := by
    rw [List.filter_append, List.append_assoc, hleft]
    exact hbefore hover
  refine ⟨by rw [hs, he]; exact h.events, new ++ [f], ?_, ⟨_, hall⟩, fun _ => hall⟩
  rw [hsent, hnew, List.append_assoc]

/-- The connection ends. -/
theorem Closing.finish (h : Closing d c) (hs : c.state = .disconnecting)
    (hs' : c'.state = .disconnected) (he : c'.events = c.events ++ [.connectionClosedGracefully])
    (hsent : c'.wire.sent = c.wire.sent) (hover : c'.phase = .over) : Closing d c' := by
  obtain ⟨new, hnew, hprefix, _⟩ := h.frames
  have hevents : c.events = d.events := by
    rcases h.events with ⟨_, he⟩ | ⟨hs', _⟩
    · exact he
    · rw [hs] at hs'
      cases hs'
  refine ⟨.inr ⟨hs', by rw [he, hevents]⟩, new, hsent.trans hnew, hprefix, fun hp => ?_⟩
  exact absurd hover hp

/-- The next frame of the outbox is sent, or a ping. -/
theorem Closing.sendOther {f : OutboundFrame} (h : Closing d c) (hs : c'.state = c.state)
    (he : c'.events = c.events) (hover : c.phase ≠ .over) (hnot : .close ∉ c.wire.sent)
    (hf : f ≠ .close) (hsent : c'.wire.sent = c.wire.sent ++ [f])
    (ho : [f].filter (!·.isPing) ++ c'.outbox = c.outbox) : Closing d c' := by
  refine h.send hs he hover hsent ?_
  have hstill : .close ∉ c'.wire.sent := by
    rw [hsent, close_mem_append hf]
    exact hnot
  rw [leftToSend, leftToSend, if_neg hstill, if_neg hnot, ← List.append_assoc, ho]

/-- The close frame is sent. -/
theorem Closing.sendClose (h : Closing d c) (hs : c'.state = c.state) (he : c'.events = c.events)
    (hover : c.phase ≠ .over) (hnot : .close ∉ c.wire.sent) (ho : c.outbox = [])
    (hsent : c'.wire.sent = c.wire.sent ++ [.close]) : Closing d c' := by
  refine h.send hs he hover hsent ?_
  have hmem : .close ∈ c'.wire.sent := by
    rw [hsent]
    exact List.mem_append_right _ (List.mem_singleton.mpr rfl)
  rw [leftToSend, leftToSend, if_pos hmem, if_neg hnot, ho]
  rfl

/-- A driver that sets out to send has not sent its close frame. -/
theorem Attempt.close_not_mem {s : Session} {f : OutboundFrame} {before after : Connection}
    (ha : Attempt ctx c s f before after) (hwired : c.Wired) (hp : c.phase = .live s) :
    .close ∉ c.wire.sent := by
  have hclose : s.closeSent = false := by cases ha <;> assumption
  intro hmem
  rw [(hwired.closeSent s hp).mpr hmem] at hclose
  cases hclose

theorem Closing.attempt {s : Session} {f : OutboundFrame} {before after : Connection}
    (log : List LogLine) (h : Closing d c) (hs : c.state = .disconnecting) (hwired : c.Wired)
    (hp : c.phase = .live s) (ha : Attempt ctx c s f before after) :
    Closing d { after with wire := c.wire.sending ctx.network f, log } := by
  have hover : c.phase ≠ .over := by simp [hp]
  have hnot := ha.close_not_mem hwired hp
  have hnotices : c.events ++ c.notices = c.events := by simp [notices, isConnected, hs]
  cases ha with
  | @text f rest _ _ _ outbox =>
    have hf : f.isQueued = true := hwired.outbox f (by rw [outbox]; exact List.mem_cons_self)
    have hping : [f].filter (!·.isPing) = [f] := by
      simp [OutboundFrame.isPing_of_isQueued hf]
    refine h.sendOther (f := f) rfl hnotices hover hnot (ne_close_of_isQueued hf) rfl ?_
    rw [hping, outbox]
    rfl
  | close _ _ _ outbox => exact h.sendClose rfl hnotices hover hnot outbox rfl
  | audio _ _ _ _ state => exact absurd (state.symm.trans hs) (by decide)
  | ping => exact h.sendOther (f := .ping []) rfl rfl hover hnot (by simp) rfl rfl

/-- Whatever ends a closing connection ends it gracefully. -/
theorem Closing.verdict {e : Ending} {final : ConnectionState} {last : EventKind}
    (h : Closing d c) (hs : c.state = .disconnecting)
    (hv : e.verdict? c.graceful c.state = some (final, last)) (hs' : c'.state = final)
    (he : c'.events = c.events ++ [last]) (hsent : c'.wire.sent = c.wire.sent)
    (hover : c'.phase = .over) : Closing d c' := by
  rw [hs] at hv
  cases hv
  exact h.finish hs hs' he hsent hover

theorem Closing.progress (h : Closing d c) (hstanding : c.Standing false) (hwired : c.Wired)
    (hp : Progress ctx c c') : Closing d c' := by
  have hstate : c.state = .disconnecting ∨ c.state = .disconnected := h.events.imp And.left And.left
  have hlive : ∀ {s : Session}, c.phase = .live s → c.state = .disconnecting ∧ c.phase ≠ .over := by
    intro s phase
    rcases hstanding.state_of_live phase with hs | hs
    · simp [hs] at hstate
    · exact ⟨hs, by simp [phase]⟩
  have hdialling : ∀ {since : Nat} {delay : Option Nat}, c.phase ≠ .dialling since delay := by
    intro since delay phase
    simp [hstanding.state_of_dialling phase] at hstate
  cases hp with
  | refused e log phase => exact absurd phase hdialling
  | opened log phase => exact absurd phase hdialling
  | spent phase => exact h.keep rfl rfl rfl fun _ => ⟨(hlive phase).2, rfl⟩
  | quiet log phase _ _ _ state => exact absurd (state.symm.trans (hlive phase).1) (by decide)
  | sent log phase attempt => exact h.attempt log (hlive phase).1 hwired phase attempt
  | lost log phase attempt fault verdict outcome =>
    have hnotices : c.events ++ c.notices = c.events := by
      simp [notices, isConnected, (hlive phase).1]
    cases attempt with
    | text | close | audio =>
      refine h.verdict (hlive phase).1 verdict rfl ?_ rfl rfl
      exact congrArg (· ++ _) hnotices
    | ping => exact h.verdict (hlive phase).1 verdict rfl rfl rfl rfl
  | discarded phase => exact h.keep rfl rfl rfl fun _ => ⟨(hlive phase).2, rfl⟩
  | taken log phase _ state => exact absurd (state.symm.trans (hlive phase).1) (by decide)
  | heard phase => exact h.keep rfl rfl rfl fun _ => ⟨(hlive phase).2, rfl⟩
  | ended log phase _ _ verdict outcome =>
    exact h.verdict (hlive phase).1 verdict rfl rfl rfl rfl
  | expired log phase _ verdict outcome =>
    exact h.verdict (hlive phase).1 verdict rfl rfl rfl rfl
  | broken => exact h.keep rfl rfl rfl fun hover => absurd rfl hover

/-- A call can do nothing to a closing connection. -/
theorem Closing.call (h : Closing d c) (call : Call) : Closing d (c.perform q call).2.1 := by
  have hframe := CallFrame.perform c q call
  have hstate : c.state = .disconnecting ∨ c.state = .disconnected := h.events.imp And.left And.left
  have hconn : c.state ≠ .connected := by rcases hstate with hs | hs <;> simp [hs]
  have htakes : c.takesText = false := by
    rcases hstate with hs | hs <;> simp [takesText, hs, ConnectionState.isTerminal]
  have houtbox : (c.perform q call).2.1.outbox = c.outbox := by
    rw [outbox_perform call fun hs => absurd hs hconn, accepted_of_closing htakes, List.append_nil]
  refine h.keep (hframe.state.resolve_right fun hs => hconn hs.1) hframe.events ?_ fun hp => ?_
  · rw [hframe.wire]
  · exact ⟨hframe.phase ▸ hp, houtbox⟩

/-! ### At most one close frame -/

/-- Nothing is sent behind a close frame. -/
def Sealed (c : Connection) : Prop :=
  ∀ front rest, c.wire.sent = front ++ .close :: rest → rest = []

theorem Sealed.keep (h : c.Sealed) (hsent : c'.wire.sent = c.wire.sent) : c'.Sealed := by
  unfold Sealed
  rw [hsent]
  exact h

/-- The first close frame may be sent, and what comes before it. -/
theorem Sealed.send {f : OutboundFrame} (hnot : .close ∉ c.wire.sent)
    (hsent : c'.wire.sent = c.wire.sent ++ [f]) : c'.Sealed := by
  intro front rest heq
  rcases List.eq_nil_or_concat rest with rfl | ⟨rest', g, rfl⟩
  · rfl
  · rw [hsent, List.concat_eq_append, ← List.cons_append, ← List.append_assoc] at heq
    obtain ⟨hfront, _⟩ := List.append_inj' heq rfl
    exact absurd (hfront ▸ List.mem_append_right _ List.mem_cons_self) hnot

theorem Sealed.count_le (h : c.Sealed) : c.wire.sent.count .close ≤ 1 := by
  by_cases hmem : .close ∈ c.wire.sent
  · obtain ⟨front, rest, heq, hfront⟩ := List.eq_append_cons_of_mem hmem
    rw [h front rest heq] at heq
    rw [heq, List.count_append, List.count_eq_zero.mpr hfront]
    exact le_rfl
  · rw [List.count_eq_zero.mpr hmem]
    exact Nat.zero_le 1

theorem Sealed.progress (h : c.Sealed) (hwired : c.Wired) (hp : Progress ctx c c') : c'.Sealed := by
  cases hp with
  | @sent s f before after log phase attempt =>
    exact .send (f := f) (attempt.close_not_mem hwired phase) rfl
  | lost log phase attempt => exact h.keep (by cases attempt <;> rfl)
  | _ => exact h.keep rfl

/-! ### Who asks for the close -/

/-- The close of the connection is asked for, under way or done. -/
def CloseAsked (c : Connection) : Prop :=
  c.closeAfterConnect = true ∨ c.state = .disconnecting ∨ .close ∈ c.wire.sent

/-- A driver closes only what it is asked to close. -/
theorem CloseAsked.of_progress (h : c'.CloseAsked) (hwired : c.Wired) (hp : Progress ctx c c') :
    c.CloseAsked := by
  have hkept : c'.closeAfterConnect = c.closeAfterConnect →
      (c'.state = .disconnecting → c.state = .disconnecting) →
      (.close ∈ c'.wire.sent → .close ∈ c.wire.sent) → c.CloseAsked :=
    fun hflag hs hsent => h.imp (fun h => hflag ▸ h) (Or.imp hs hsent)
  have hfinal : ∀ {e : Ending} {final : ConnectionState} {last : EventKind},
      e.verdict? c.graceful c.state = some (final, last) →
      final = .disconnecting → c.state = .disconnecting :=
    fun hv hs => absurd hs (Ending.final_ne_disconnecting hv)
  cases hp with
  | refused => exact hkept rfl (fun hs => by cases hs) fun hmem => hmem
  | opened log phase =>
    cases hflag : c.closeAfterConnect with
    | true => exact .inl hflag
    | false => exact hkept rfl (fun hs => by simp [hflag] at hs) fun hmem => hmem
  | sent log phase attempt =>
    cases attempt with
    | close _ _ _ _ state => exact .inr (.inl state)
    | text _ _ _ outbox =>
      have hf := ne_close_of_isQueued (hwired.outbox _ (by rw [outbox]; exact List.mem_cons_self))
      exact hkept rfl (fun hs => hs) (close_mem_append hf).mp
    | audio | ping => exact hkept rfl (fun hs => hs) (close_mem_append (by simp)).mp
  | lost log phase attempt fault verdict =>
    exact hkept (by cases attempt <;> rfl) (hfinal verdict) (by cases attempt <;> exact fun hmem => hmem)
  | ended _ _ _ _ verdict => exact hkept rfl (hfinal verdict) fun hmem => hmem
  | expired _ _ _ verdict => exact hkept rfl (hfinal verdict) fun hmem => hmem
  | _ => exact h

/-- From `c` to `c'` the connection leaves for disconnecting, or is to do so as soon as it is open. -/
def BeginsToClose (c c' : Connection) : Prop :=
  c.state = .connected ∧ c'.state = .disconnecting ∨
    c.closeAfterConnect = false ∧ c'.closeAfterConnect = true

instance (c c' : Connection) : Decidable (c.BeginsToClose c') := inferInstanceAs (Decidable (_ ∨ _))

/-- Who did not ask before and asks after a call began to close with it. -/
theorem CloseAsked.of_call (call : Call) (h : (c.perform q call).2.1.CloseAsked) :
    c.CloseAsked ∨ c.BeginsToClose (c.perform q call).2.1 := by
  have hframe := CallFrame.perform c q call
  rcases h with h | h | h
  · cases hflag : c.closeAfterConnect with
    | true => exact .inl (.inl hflag)
    | false => exact .inr (.inr ⟨hflag, h⟩)
  · rcases hframe.state with hs | hs
    · exact .inl (.inr (.inl (hs ▸ h)))
    · exact .inr (.inl hs)
  · rw [hframe.wire] at h
    exact .inl (.inr (.inr h))

theorem asksToClose_of_begins (call : Call) (h : c.BeginsToClose (c.perform q call).2.1) :
    call.asksToClose = true := by
  rcases (scope_perform c q call).closing with ⟨hs, hflag⟩ | hasks
  · rcases h with ⟨hconn, hclosing⟩ | ⟨hno, hyes⟩
    · simp [hs, hconn] at hclosing
    · simp [hflag, hno] at hyes
  · exact hasks

/-- A close that is noted stays noted. -/
theorem closeAfterConnect_perform (call : Call) (h : c.closeAfterConnect = true) :
    (c.perform q call).2.1.closeAfterConnect = true := by
  have hkept : KeptByCalls (fun c _ => c.closeAfterConnect = true)
      (fun c _ => c.closeAfterConnect = true) := by
    refine keptByCalls_of_requests (fun _ hc _ h => hc.trans h) (fun {c q} h => ?_) fun {c q} h => ?_
    · obtain ⟨_, heq⟩ := connect_effect c q
      rw [heq]
      exact h
    · unfold Connection.close beginDisconnect moved
      split
      · split
        · rfl
        · exact h
      · rfl
      · cases c.state.transition .connected .disconnecting <;> exact h
      all_goals exact h
  exact hkept.perform call h

/-- What every move but a step of its driver leaves of a connection. -/
structure Undriven (c c' : Connection) : Prop where
  opened : c'.wire.opened = c.wire.opened
  sent : c'.wire.sent = c.wire.sent
  fault : c.state ≠ .idle → c'.wire.sendFault? = c.wire.sendFault?
  events : c'.events = c.events
  writable : c.writable = true → c'.writable = true
  noted : c.closeAfterConnect = true → c'.closeAfterConnect = true
  live : ∀ s, c'.phase = .live s → c.phase = .live s
  state : c'.state = c.state ∨ c.state = .idle ∧ c'.state = .connecting ∨
    c.state = .connected ∧ c'.state = .disconnecting

theorem Undriven.refl (c : Connection) : Undriven c c :=
  ⟨rfl, rfl, fun _ => rfl, rfl, fun hw => hw, fun hn => hn, fun _ hp => hp, .inl rfl⟩

theorem Undriven.perform (c : Connection) (q : Requests) (call : Call) :
    Undriven c (c.perform q call).2.1 := by
  have hframe := CallFrame.perform c q call
  refine ⟨?_, ?_, fun _ => ?_, hframe.events, fun hw => hframe.writable.trans hw,
    closeAfterConnect_perform call, fun s hp => hframe.phase ▸ hp,
    hframe.state.imp_right .inr⟩ <;> rw [hframe.wire]

/-- A connection that is not connected and not idle stays in its state. -/
theorem Undriven.state_eq (h : Undriven c c') (hi : c.state ≠ .idle) (hc : c.state ≠ .connected) :
    c'.state = c.state :=
  h.state.resolve_right fun hs => hs.elim (fun hs => hi hs.1) fun hs => hc hs.1

end Connection

namespace Bridge

/-- The loop takes no permit away. -/
theorem writable_takenUp (b : Bridge) (c : Connection) (h : c.writable = true) :
    (b.takenUp c).writable = true := by
  have hconnect : (if c.id ∈ b.queues.connects then b.takeConnect c else c).writable = true := by
    split
    · by_cases hidle : c.isAlive = true ∧ c.state = .idle
      · rw [takeConnect_of_idle hidle.1 hidle.2]
        exact h
      · rw [takeConnect_of_not hidle]
        exact h
    · exact h
  unfold takenUp
  dsimp only
  generalize (if c.id ∈ b.queues.connects then b.takeConnect c else c) = d at hconnect ⊢
  rw [takeDisconnect_eq, takeWrite_eq]
  split <;> split <;> simp [hconnect]

/-- A move is a step of the driver or leaves the connection undriven. -/
theorem Change.progress_or_undriven {b : Bridge} {c c' : Connection} {m : Move}
    (h : Change b c m c') :
    (∃ n e, m = .errand n e ∧ b.queues.stopped = false ∧ c.Progress b.context c') ∨
      Connection.Undriven c c' := by
  cases h with
  | call => exact .inr (.perform c b.queues _)
  | @far call =>
    obtain ⟨_, _, hfar⟩ := c.farCall_eq call
    rw [hfar]
    exact .inr ⟨rfl, rfl, fun _ => rfl, rfl, fun hw => hw, fun hn => hn, fun _ hp => hp, .inl rfl⟩
  | takenUp =>
    have hwritable := b.writable_takenUp c
    obtain ⟨_, _, _, heq, _, hcases⟩ := takenUp_cases b c
    rw [heq] at hwritable ⊢
    rcases hcases with rfl | ⟨_, hidle, rfl⟩
    · exact .inr ⟨rfl, rfl, fun _ => rfl, rfl, hwritable, fun hn => hn, fun _ hp => hp, .inl rfl⟩
    · exact .inr ⟨rfl, rfl, fun hs => absurd hidle hs, rfl, hwritable, fun hn => hn,
        fun _ hp => (by cases hp), .inr (.inl ⟨hidle, rfl⟩)⟩
  | progress running progress => exact .inl ⟨_, _, rfl, running, progress⟩
  | cut =>
    refine .inr ⟨rfl, rfl, fun _ => rfl, rfl, fun hw => hw, fun hn => hn, fun s hp => ?_, .inl rfl⟩
    dsimp only at hp
    split at hp
    · cases hp
    · exact hp
  | unheld | other | spared => exact .inr (.refl c)

theorem closing_change {b : Bridge} {c c' d : Connection} {m : Move}
    (hstanding : c.Standing b.queues.stopped) (hwired : c.Wired) (h : Connection.Closing d c)
    (hchange : Change b c m c') : Connection.Closing d c' := by
  cases hchange with
  | call => exact h.call _
  | @far call =>
    obtain ⟨_, _, hfar⟩ := c.farCall_eq call
    rw [hfar]
    exact h.keep rfl rfl rfl fun hp => ⟨hp, rfl⟩
  | takenUp =>
    obtain ⟨_, _, _, heq, _, hcases⟩ := takenUp_cases b c
    rw [heq]
    rcases hcases with rfl | ⟨_, hidle, _⟩
    · exact h.keep rfl rfl rfl fun hp => ⟨hp, rfl⟩
    · rcases h.events with ⟨hs, _⟩ | ⟨hs, _⟩ <;> simp [hidle] at hs
  | progress running progress => exact h.progress (running ▸ hstanding) hwired progress
  | cut =>
    refine h.keep rfl rfl rfl fun hp => ⟨fun hover => hp ?_, rfl⟩
    dsimp only
    rw [hover]
    split <;> rfl
  | unheld | other | spared => exact h

/-- What becomes of a connection from the moment on at which it is disconnecting. -/
theorem closing_play {id : String} (moves : List Move) {b : Bridge} {d : Connection}
    (hb : ∀ c ∈ b.roster, c.Standing b.queues.stopped ∧ c.Wired) (hd : b.find? id = some d)
    (hs : d.state = .disconnecting) :
    ∃ c, (b.play moves).find? id = some c ∧ d.Closing c := by
  exact exists_play_of_kept
    (fun hstanding hwired hchange h => closing_change hstanding hwired h hchange) moves hb hd (.refl hs)

/-- A connection that is disconnecting after a move and was not before has sent no close frame yet. -/
theorem close_not_mem_of_change {b : Bridge} {c c' : Connection} {m : Move}
    (hstanding : c.Standing b.queues.stopped) (hwired : c.Wired) (hchange : Change b c m c')
    (hs : c.state ≠ .disconnecting) (hs' : c'.state = .disconnecting) : .close ∉ c'.wire.sent := by
  intro hmem
  have hnot : c.state ≠ .disconnected → .close ∉ c.wire.sent := fun hd hmem =>
    (hwired.closing hmem).2.elim hs hd
  rcases hchange.progress_or_undriven with ⟨_, _, _, running, progress⟩ | hundriven
  · cases progress with
    | opened log phase => exact hnot (by simp [hstanding.state_of_dialling phase]) hmem
    | refused => cases hs'
    | sent log phase attempt => exact hs (by cases attempt <;> exact hs')
    | lost log phase attempt fault verdict => exact Ending.final_ne_disconnecting verdict hs'
    | ended _ _ _ _ verdict => exact Ending.final_ne_disconnecting verdict hs'
    | expired _ _ _ verdict => exact Ending.final_ne_disconnecting verdict hs'
    | _ => exact hs hs'
  · rw [hundriven.sent] at hmem
    rcases hundriven.state with hsame | ⟨_, hconnecting⟩ | ⟨hconn, _⟩
    · exact hs (hsame.symm.trans hs')
    · simp [hconnecting] at hs'
    · exact hnot (by simp [hconn]) hmem

theorem sealed_change {b : Bridge} {c c' : Connection} {m : Move} (hwired : c.Wired) (h : c.Sealed)
    (hchange : Change b c m c') : c'.Sealed := by
  rcases hchange.progress_or_undriven with ⟨_, _, _, _, progress⟩ | hundriven
  · exact h.progress hwired progress
  · exact h.keep hundriven.sent

/-- No move but a call asks for the close of a connection. -/
theorem closeAsked_change {b : Bridge} {c c' : Connection} {m : Move} (hwired : c.Wired)
    (hchange : Change b c m c') (h : c'.CloseAsked) :
    c.CloseAsked ∨ ∃ call, m = .act (.call c.id call) ∧ c.held = true ∧ call.asksToClose = true ∧
      c.BeginsToClose c' := by
  cases hchange with
  | @call call held =>
    rcases Connection.CloseAsked.of_call call h with hasked | hbegins
    · exact .inl hasked
    · exact .inr ⟨call, rfl, held, Connection.asksToClose_of_begins call hbegins, hbegins⟩
  | @far call =>
    obtain ⟨_, _, hfar⟩ := c.farCall_eq call
    rw [hfar] at h
    exact .inl h
  | takenUp =>
    obtain ⟨_, _, _, heq, _, hcases⟩ := takenUp_cases b c
    rw [heq] at h
    rcases hcases with rfl | ⟨_, _, rfl⟩
    · exact .inl h
    · exact .inl (h.imp (fun h => h) (Or.imp (fun hs => by cases hs) fun hmem => hmem))
  | progress running progress => exact .inl (h.of_progress hwired progress)
  | cut | unheld | other | spared => exact .inl h

end Bridge

end VoiceBridge
