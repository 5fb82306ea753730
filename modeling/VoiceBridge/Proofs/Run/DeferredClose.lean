import VoiceBridge.Proofs.Run.AtRest
import VoiceBridge.Proofs.Run.Verdict

/-!
# A close before the wire is open

A caller may close a connection while its wire is not open yet. The close is noted and takes effect in
the step in which the wire opens, so that no message can come between. `Deferred` has one constructor for
each way such a connection can stand: the wire is not open, it could not be opened, or it was opened and
the connection has been closing since that very step.

In the step that opens the wire the driver gets a writable turn and keeps it until its close frame is
sent (`Hurried`). Whatever it sees to in the meantime, if no time passes before it takes that turn, it can
only come to an end where a send fails or where it takes in the end of the far side first.
-/

namespace VoiceBridge

namespace Connection

variable {c c' : Connection} {q : Requests} {ctx : LoopContext} {acc : List OutboundFrame}

/-- The wire has not been opened and may still be. -/
def IsEarly (c : Connection) : Prop := c.state = .idle ∨ c.state = .connecting

/-- Only the driver opens the wire or gives up. -/
theorem Undriven.isEarly_iff (h : Undriven c c') : c'.IsEarly ↔ c.IsEarly := by
  unfold IsEarly
  rcases h.state with hs | ⟨hs, hs'⟩ | ⟨hs, hs'⟩
  · rw [hs]
  · simp [hs, hs']
  · simp [hs, hs']

/-- Before the wire is open only texts are accepted. -/
theorem IsEarly.accepted (h : c.IsEarly) (call : Call) :
    ∀ f ∈ c.accepted q call, ∃ s, f = .text s := by
  have htold : ∀ (s : String) (r : Except BridgeError Unit), ∀ f ∈ told (.text s) r, ∃ s, f = .text s := by
    intro s r f hf
    cases r with
    | ok => exact ⟨s, List.mem_singleton.mp hf⟩
    | error => cases hf
  cases call with
  | finish =>
    have hconn : c.state ≠ .connected := by rcases h with hs | hs <;> simp [hs]
    intro f hf
    change f ∈ told _ (c.finish q).1 at hf
    rw [Connection.finish, if_pos hconn] at hf
    cases hf
  | text s => exact htold s _
  | audio chunks text =>
    cases text with
    | none => simp [Connection.accepted]
    | some s => exact htold s _
  | _ => simp [Connection.accepted]

theorem Progress.phase_ne_dialling (h : Progress ctx c c') {since : Nat} {delay : Option Nat} :
    c'.phase ≠ .dialling since delay := by
  cases h with
  | sent log phase attempt => cases attempt <;> simp [turned, phase]
  | _ => simp [finished, driverGone, turned, *]

/-- After its first step the driver has opened the wire or given up. -/
theorem Progress.not_isEarly (h : Progress ctx c c') (hstanding : c.Standing false) : ¬c'.IsEarly := by
  intro hearly
  cases hstanding.progress h with
  | fresh phase => exact h.phase_ne_absent phase
  | dialling _ phase => exact h.phase_ne_dialling phase
  | dropped _ state | cutLive _ state => rcases state with hs | hs <;> simp [IsEarly, hs] at hearly
  | _ => simp_all [IsEarly]

theorem IsEarly.events {stopped : Bool} (h : c.IsEarly) (hstanding : c.Standing stopped) :
    c.events = [] := by
  cases hstanding with
  | fresh _ _ _ events => exact events
  | dialling _ _ _ _ events => exact events
  | cutDialling _ _ _ _ events => exact events
  | dropped _ state | cutLive _ state => rcases state with hs | hs <;> simp [IsEarly, hs] at h
  | _ => simp_all [IsEarly]

/-- To close an early connection is to note it. -/
theorem IsEarly.noted_of_done (h : c.IsEarly) {call : Call}
    (hcall : call = .close ∨ call = .closeWithCompletion) (hdone : (c.perform q call).1 = .done) :
    (c.perform q call).2.1.closeAfterConnect = true := by
  have hclose : (c.close q).1 = .ok () → (c.close q).2.1.closeAfterConnect = true := by
    intro hok
    unfold Connection.close at hok ⊢
    rcases h with hs | hs
    · rw [hs] at hok ⊢
      dsimp only at hok ⊢
      split at hok
      · rename_i hrequested
        rw [if_pos hrequested]
      · cases hok
    · rw [hs]
  rcases hcall with rfl | rfl
  · exact hclose (Answer.ofUnit_eq_done.mp hdone)
  · have hok : (c.closeWithCompletion q).1 = .ok () := Answer.ofUnit_eq_done.mp hdone
    change (c.closeWithCompletion q).2.1.closeAfterConnect = true
    rcases closeWithCompletion_cases c q with ⟨haccepted, hafter⟩ | ⟨_, hafter⟩
    · rw [hafter]
      exact hclose haccepted
    · rw [hafter] at hok ⊢
      exact hclose hok

/-- How a connection stands after a deferred close, given the texts accepted. -/
inductive Deferred (acc : List OutboundFrame) (c : Connection) : Prop
  | waiting (early : c.IsEarly) (noted : c.closeAfterConnect = true) (unopened : c.wire.opened = false)
      (sent : c.wire.sent = []) (events : c.events = [])
  | refused {reason : String} (state : c.state = .failed) (unopened : c.wire.opened = false)
      (sent : c.wire.sent = []) (events : c.events = [.connectFail reason])
  /-- The connection was opened as `d`. -/
  | closing {d : Connection} (events : d.events = [.connectSuccess]) (sent : d.wire.sent = [])
      (left : d.leftToSend = acc ++ [.close]) (since : d.Closing c) (opened : c.wire.opened = true)

/-- Of a connection whose wire is not open the driver can only open it, or fail to. -/
theorem Deferred.dialled (hp : Progress ctx c c') (hstanding : c.Standing false)
    (hledger : c.Ledger acc) (early : c.IsEarly) (noted : c.closeAfterConnect = true)
    (unopened : c.wire.opened = false) (sent : c.wire.sent = []) (events : c.events = []) :
    c'.Deferred acc := by
  have hlive : ∀ {s : Session}, c.phase ≠ .live s := by
    intro s phase
    rcases hstanding.state_of_live phase with hs | hs <;> simp [IsEarly, hs] at early
  cases hp with
  | refused e log phase =>
    exact .refused rfl unopened sent (by rw [finished, events, List.nil_append])
  | opened log phase =>
    have hbalance := hledger.balance (by simp [phase])
    rw [received, sent, List.filter_nil, List.nil_append] at hbalance
    refine .closing ?_ ?_ ?_ (.refl (if_pos noted)) rfl
    · rw [events]
      rfl
    · exact sent
    · rw [leftToSend, if_neg (by simp [sent]), hbalance]
  | _ => exact absurd ‹_› hlive

/-- An open wire stays open. -/
theorem Progress.opened_kept (hp : Progress ctx c c') (h : c.wire.opened = true) :
    c'.wire.opened = true := by
  cases hp with
  | opened => rfl
  | sent log phase attempt => exact h
  | lost log phase attempt => cases attempt <;> exact h
  | _ => exact h

/-! ### The turn that comes first -/

/-- A connection whose close is noted or under way. As long as its close frame is not sent the driver has
a turn, no time has passed since it last heard of the far end, and it waits for no reply. -/
structure Hurried (b : Bridge) (c : Connection) : Prop where
  state : c.state ≠ .connected
  noted : c.IsEarly → c.closeAfterConnect = true
  turn : c.state = .disconnecting → .close ∉ c.wire.sent →
    c.writable = true ∧ ∀ s, c.phase = .live s → s.lastHeard = b.now ∧ s.closeDeadline = none

section Hurried

variable {b : Bridge}

theorem Hurried.of_ended (hs : c.state = .disconnected ∨ c.state = .failed) : c.Hurried b := by
  rcases hs with hs | hs
  · exact ⟨by simp [hs], by simp [IsEarly, hs], by simp [hs]⟩
  · exact ⟨by simp [hs], by simp [IsEarly, hs], by simp [hs]⟩

theorem Hurried.of_closing (hs : c.state = .disconnecting)
    (h : .close ∉ c.wire.sent →
      c.writable = true ∧ ∀ s, c.phase = .live s → s.lastHeard = b.now ∧ s.closeDeadline = none) :
    c.Hurried b :=
  ⟨by simp [hs], by simp [IsEarly, hs], fun _ => h⟩

/-- Until it sends its close frame the driver keeps its turn, whatever it sees to. -/
theorem Hurried.progress (h : c.Hurried b) (hstanding : c.Standing false) (hwired : c.Wired)
    (hp : Progress b.context c c') : c'.Hurried b := by
  have hlive : ∀ {s : Session}, c.phase = .live s → c.state = .disconnecting := fun phase =>
    (hstanding.state_of_live phase).resolve_left h.state
  have hconn : ∀ {p : Prop}, c.state = .connected → p := fun hs => absurd hs h.state
  have hended : ∀ {e : Ending} {final : ConnectionState} {last : EventKind} {d : Connection},
      e.verdict? c.graceful c.state = some (final, last) → d.state = final → d.Hurried b := by
    intro e final last d hverdict hd
    refine .of_ended ?_
    rw [hd]
    exact (Ending.verdict_cases hverdict).elim (fun hv => .inl hv.1) fun hv => hv.1
  cases hp with
  | refused => exact .of_ended (.inr rfl)
  | opened log phase =>
    have hnoted := h.noted (.inr (hstanding.state_of_dialling phase))
    refine .of_closing (if_pos hnoted) fun _ => ⟨by simp [hnoted], fun s hp => ?_⟩
    cases hp
    exact ⟨rfl, rfl⟩
  | @spent s phase _ closeSent =>
    exact .of_closing (hlive phase) fun hnot => absurd ((hwired.closeSent s phase).mp closeSent) hnot
  | quiet _ _ _ _ _ state => exact hconn state
  | @sent s f before after log phase attempt =>
    have hs := hlive phase
    cases attempt with
    | text _ _ _ outbox =>
      have hf := ne_close_of_isQueued (hwired.outbox _ (by rw [outbox]; exact List.mem_cons_self))
      refine .of_closing hs fun hnot => ⟨by simp [turned, hs], ?_⟩
      exact (h.turn hs fun hmem => hnot ((close_mem_append hf).mpr hmem)).2
    | close =>
      exact .of_closing hs fun hnot =>
        absurd (List.mem_append_right _ (List.mem_singleton.mpr rfl)) hnot
    | audio _ _ _ _ state => exact hconn state
    | ping =>
      refine .of_closing hs fun hnot => ?_
      obtain ⟨hw, hfresh⟩ := h.turn hs fun hmem => hnot ((close_mem_append (by simp)).mpr hmem)
      refine ⟨hw, fun s' hp' => ?_⟩
      cases hp'
      exact hfresh s phase
  | lost log phase attempt fault verdict => exact hended verdict rfl
  | @discarded s f rest phase =>
    refine .of_closing (hlive phase) fun hnot => ?_
    obtain ⟨hw, hfresh⟩ := h.turn (hlive phase) hnot
    refine ⟨hw, fun s' hp' => ?_⟩
    cases hp'
    exact ⟨rfl, (hfresh s phase).2⟩
  | taken _ _ _ state => exact hconn state
  | @heard s rest phase =>
    refine .of_closing (hlive phase) fun hnot => ?_
    obtain ⟨hw, hfresh⟩ := h.turn (hlive phase) hnot
    refine ⟨hw, fun s' hp' => ?_⟩
    cases hp'
    exact ⟨rfl, (hfresh s phase).2⟩
  | ended _ _ _ _ verdict => exact hended verdict rfl
  | expired _ _ _ verdict => exact hended verdict rfl
  | broken phase =>
    exact .of_closing (hlive phase) fun hnot =>
      ⟨(h.turn (hlive phase) hnot).1, fun s hp => by cases hp⟩

/-- What leaves the driver alone leaves it its turn. -/
theorem Hurried.undriven {b' : Bridge} (h : c.Hurried b) (hundriven : Undriven c c')
    (hnow : c.state = .disconnecting → .close ∉ c.wire.sent → c.isLive = true → b'.now = b.now) :
    c'.Hurried b' where
  state hs := by
    rcases hundriven.state with hsame | ⟨_, hs'⟩ | ⟨hconn, _⟩
    · exact h.state (hsame ▸ hs)
    · simp [hs'] at hs
    · exact h.state hconn
  noted hearly := hundriven.noted (h.noted (hundriven.isEarly_iff.mp hearly))
  turn hs hnot := by
    rw [hundriven.sent] at hnot
    have hclosing : c.state = .disconnecting := by
      rcases hundriven.state with hsame | ⟨_, hs'⟩ | ⟨hconn, _⟩
      · exact hsame ▸ hs
      · simp [hs'] at hs
      · exact absurd hconn h.state
    obtain ⟨hw, hfresh⟩ := h.turn hclosing hnot
    refine ⟨hundriven.writable hw, fun s hp => ?_⟩
    have hlive := hundriven.live s hp
    rw [hnow hclosing hnot (isLive_of_phase hlive)]
    exact hfresh s hlive

/-- A hurried driver that comes to an end has sent its close frame, failed to send or took in the end of
the far side. -/
theorem Hurried.meets {errand : Errand} {e : Ending} (h : c.Hurried b)
    (hmeets : c.Meets b.context errand e) (hs : c.state = .disconnecting)
    (hnot : .close ∉ c.wire.sent) : errand = .arrival ∨ c.wire.sendFault? ≠ none := by
  obtain ⟨_, hfresh⟩ := h.turn hs hnot
  cases hmeets with
  | closeFrame | receiveError | endOfStream => exact .inl rfl
  | sendError _ _ fault | pingError _ _ _ _ fault => exact .inr (by simp [fault])
  | silence phase _ late =>
    have hheard := (hfresh _ phase).1
    change _ < b.now at late
    omega
  | noCloseReply phase waiting =>
    rw [(hfresh _ phase).2] at waiting
    cases waiting

end Hurried

/-! ### What the far end receives and the owner is told -/

theorem Deferred.frames (h : c.Deferred acc) :
    c.wire.sent.filter (!·.isPing) <+: acc ++ [.close] := by
  cases h with
  | waiting _ _ _ sent => simp [sent]
  | refused _ _ sent => simp [sent]
  | closing _ sent left since =>
    obtain ⟨new, hnew, hprefix, _⟩ := since.frames
    rw [hnew, sent, List.nil_append, ← left]
    exact hprefix

theorem Deferred.events_unopened (h : c.Deferred acc) (ho : c.wire.opened = false) :
    ∃ reason, c.events <+: [.connectFail reason] := by
  cases h with
  | waiting _ _ _ _ events => exact ⟨"", by simp [events]⟩
  | @refused reason _ _ _ events => exact ⟨reason, by simp [events]⟩
  | closing _ _ _ _ opened => simp [opened] at ho

theorem Deferred.events_opened (h : c.Deferred acc) (ho : c.wire.opened = true) :
    c.events <+: [.connectSuccess, .connectionClosedGracefully] := by
  cases h with
  | waiting _ _ unopened => simp [unopened] at ho
  | refused _ unopened => simp [unopened] at ho
  | closing events _ _ since =>
    rcases since.events with ⟨_, he⟩ | ⟨_, he⟩
    · rw [he, events]
      exact ⟨_, rfl⟩
    · rw [he, events]
      exact List.prefix_rfl

/-- Once the close frame is sent, all is sent. -/
theorem Deferred.all_sent (h : c.Deferred acc) (htexts : ∀ f ∈ acc, ∃ s, f = .text s)
    (hclose : .close ∈ c.wire.sent) : c.wire.sent.filter (!·.isPing) = acc ++ [.close] := by
  have hmem : .close ∈ c.wire.sent.filter (!·.isPing) := List.mem_filter.mpr ⟨hclose, rfl⟩
  rcases List.prefix_concat_iff.mp h.frames with hall | hpart
  · exact hall
  · obtain ⟨s, hs⟩ := htexts _ (hpart.mem hmem)
    cases hs

end Connection

namespace Bridge

variable {b : Bridge} {c c' : Connection} {m : Move} {acc : List OutboundFrame}

/-- What is accepted with a move is accepted by a call. -/
theorem accepts_eq (hc : b.find? c.id = some c) (m : Move) :
    b.accepts c.id m = [] ∨ ∃ call, b.accepts c.id m = c.accepted b.queues call := by
  unfold accepts
  split
  · rw [hc]
    dsimp only
    split
    · exact .inr ⟨_, rfl⟩
    · exact .inl rfl
  · exact .inl rfl

/-- Nothing is accepted by a connection that takes no text. -/
theorem accepts_of_not_takesText (hc : b.find? c.id = some c) (h : c.takesText = false) (m : Move) :
    b.accepts c.id m = [] := by
  rcases accepts_eq hc m with heq | ⟨call, heq⟩
  · exact heq
  · rw [heq, Connection.accepted_of_closing h]

/-- A connection whose wire is not open accepts texts. -/
theorem text_of_accepts (hc : b.find? c.id = some c) (h : c.IsEarly) (m : Move) :
    ∀ f ∈ b.accepts c.id m, ∃ s, f = .text s := by
  rcases accepts_eq hc m with heq | ⟨call, heq⟩ <;> rw [heq]
  · simp
  · exact h.accepted call

/-- So does a connection whose close is noted. -/
theorem text_of_deferred (hc : b.find? c.id = some c) (h : c.Deferred acc) (m : Move) :
    ∀ f ∈ b.accepts c.id m, ∃ s, f = .text s := by
  have hnothing : c.takesText = false → ∀ f ∈ b.accepts c.id m, ∃ s, f = .text s := by
    intro htakes
    simp [accepts_of_not_takesText hc htakes]
  cases h with
  | waiting early => exact text_of_accepts hc early m
  | refused state => exact hnothing (by simp [Connection.takesText, state, ConnectionState.isTerminal])
  | closing _ _ _ since =>
    rcases since.events with ⟨hs, _⟩ | ⟨hs, _⟩ <;>
      exact hnothing (by simp [Connection.takesText, hs, ConnectionState.isTerminal])

theorem deferred_change (hc : b.find? c.id = some c) (hstanding : c.Standing b.queues.stopped)
    (hwired : c.Wired) (hledger : c.Ledger acc) (h : c.Deferred acc) (hchange : Change b c m c') :
    c'.Deferred (acc ++ b.accepts c.id m) := by
  have hmove := hchange.progress_or_undriven
  cases h with
  | waiting early noted unopened sent events =>
    rcases hmove with ⟨_, _, rfl, running, progress⟩ | hundriven
    · rw [accepts_of_quiet (by simp), List.append_nil]
      exact .dialled progress (running ▸ hstanding) hledger early noted unopened sent events
    · exact .waiting (hundriven.isEarly_iff.mpr early) (hundriven.noted noted)
        (hundriven.opened.trans unopened) (hundriven.sent.trans sent) (hundriven.events.trans events)
  | refused state unopened sent events =>
    rcases hmove with ⟨_, _, rfl, running, progress⟩ | hundriven
    · have hdriven := progress.isDriven
      cases hstanding <;> simp_all [Connection.isDriven]
    · have hs := hundriven.state_eq (by simp [state]) (by simp [state])
      exact .refused (hs.trans state) (hundriven.opened.trans unopened) (hundriven.sent.trans sent)
        (hundriven.events.trans events)
  | closing events sent left since opened =>
    have htakes : c.takesText = false := by
      rcases since.events with ⟨hs, _⟩ | ⟨hs, _⟩ <;>
        simp [Connection.takesText, hs, ConnectionState.isTerminal]
    rw [accepts_of_not_takesText hc htakes, List.append_nil]
    refine .closing events sent left (closing_change hstanding hwired since hchange) ?_
    rcases hmove with ⟨_, _, _, _, progress⟩ | hundriven
    · exact progress.opened_kept opened
    · exact hundriven.opened.trans opened

/-- As long as the wire is not open, nothing is sent and only texts are accepted. -/
theorem recorded_early (id : String) : Recorded id (accepts id) fun c acc =>
    c.IsEarly → c.wire.opened = false ∧ c.wire.sent = [] ∧ ∀ f ∈ acc, ∃ s, f = .text s where
  unnamed hnone := (recorded_accepts id).unnamed hnone
  create hcreate := by
    obtain ⟨_, _, rfl⟩ := Connection.create_eq hcreate
    exact fun _ => ⟨rfl, rfl, by simp⟩
  change {b m c c' acc} hc _ hstanding _ hchange h hearly' := by
    rcases hchange.progress_or_undriven with ⟨_, _, _, running, progress⟩ | hundriven
    · exact absurd hearly' (progress.not_isEarly (running ▸ hstanding))
    · have hearly : c.IsEarly := hundriven.isEarly_iff.mp hearly'
      obtain ⟨hopened, hsent, htexts⟩ := h hearly
      refine ⟨hundriven.opened.trans hopened, hundriven.sent.trans hsent, fun f hf => ?_⟩
      rcases List.mem_append.mp hf with hf | hf
      · exact htexts f hf
      · have hid := id_of_find? hc
        subst hid
        exact text_of_accepts hc hearly _ f hf

/-- A call that closes an early connection leaves it early, with its close noted. -/
theorem exists_noted {config : ServiceConfig} {before : List Move} {id : String} {call : Call}
    (hc : (play { config } before).find? id = some c) (hheld : c.held = true) (h : c.IsEarly)
    (hcall : call = .close ∨ call = .closeWithCompletion)
    (hok : (c.perform (play { config } before).queues call).1 = .done) :
    ∃ c₁, (play { config } (before ++ [.act (.call id call)])).find? id = some c₁ ∧ c₁.IsEarly ∧
      c₁.closeAfterConnect = true := by
  have hundriven := Connection.Undriven.perform c (play { config } before).queues call
  refine ⟨(c.perform (play { config } before).queues call).2.1, ?_, hundriven.isEarly_iff.mpr h,
    h.noted_of_done hcall hok⟩
  rw [play_append]
  exact find?_call_held hc hheld call

/-- As long as the service runs, time passes only while the driver of a closing connection of the name has
no turn. -/
def TurnFirst (id : String) (b : Bridge) (m : Move) : Prop :=
  0 < m.nanos → b.queues.stopped = false → ∀ c ∈ b.find? id, c.state = .disconnecting →
    c.isLive = true → c.writable = false

instance (id : String) (b : Bridge) (m : Move) : Decidable (b.TurnFirst id m) :=
  inferInstanceAs (Decidable (_ → _))

theorem hurried_change (hc : b.find? c.id = some c) (hstanding : c.Standing b.queues.stopped)
    (hwired : c.Wired) (hchange : Change b c m c') (hfirst : b.TurnFirst c.id m) (h : c.Hurried b) :
    c'.Hurried (b.move m) := by
  rcases hchange.progress_or_undriven with ⟨n, e, rfl, running, progress⟩ | hundriven
  · have hnow : (b.move (.errand n e)).now = b.now := now_move b _
    obtain ⟨hs, hnoted, hturn⟩ := h.progress (running ▸ hstanding) hwired progress
    exact ⟨hs, hnoted, by rw [hnow]; exact hturn⟩
  · refine h.undriven hundriven fun hs hnot hlive => ?_
    rw [now_move]
    by_cases hm : 0 < m.nanos
    · have hdriven : c.isDriven = true := by
        obtain ⟨s, hp⟩ := Connection.isLive_iff.mp hlive
        simp [Connection.isDriven, hp]
      have hw := hfirst hm (hstanding.running_of_isDriven hdriven) c hc hs hlive
      rw [(h.turn hs hnot).1] at hw
      cases hw
    · omega

theorem hurried_play {id : String} (moves : List Move) {b : Bridge} {c : Connection}
    (hb : ∀ c ∈ b.roster, c.Standing b.queues.stopped ∧ c.Wired) (hc : b.find? id = some c)
    (hfirst : b.Along (TurnFirst id) moves) (h : c.Hurried b) :
    ∃ c', (b.play moves).find? id = some c' ∧ c'.Hurried (b.play moves) :=
  exists_play_along (P := fun b c => c.Hurried b)
    (fun hfirst hc _ hstanding hwired hchange h => by
      have hid := id_of_find? hc
      subst hid
      exact hurried_change hc hstanding hwired hchange hfirst h) moves hfirst hb hc h

/-- A scenario settles before it lets time pass. -/
theorem exists_turnFirst_run (config : ServiceConfig) (id : String) (steps : List Step) :
    ∃ moves : List Move, ({ config } : Bridge).Along (TurnFirst id) moves ∧
      moves.filterMap Move.action? = steps.flatMap Step.actions ∧
      (run { config } steps).2 = play { config } moves := by
  refine exists_restful_run (W := fun _ => True) (fun b m hstill hlater => ?_)
    (fun b nanos _ hrest _ hrunning c hc _ hlive => ?_) steps (fun _ _ _ _ => trivial)
  · cases m with
    | wait nanos => exact absurd rfl (hstill nanos)
    | act | loop | errand => exact absurd hlater (Nat.lt_irrefl 0)
  · exact (hrest hrunning).settled.writable c (List.mem_of_find?_eq_some hc) hlive

/-- A connection that has not ended at some point of a run and has ended later was ended in between. -/
theorem exists_end_after {config : ServiceConfig} {before after : List Move} {id : String}
    {c₁ : Connection} (hc₁ : (play { config } before).find? id = some c₁)
    (hearlier : c₁.state.isTerminal = false)
    (hc : (play { config } (before ++ after)).find? id = some c) (hopened : .connectSuccess ∈ c.events)
    (hended : c.state.isTerminal = true) :
    ∃ front n e rest d d', after = front ++ .errand n e :: rest ∧
      (play { config } (before ++ front)).queues.stopped = false ∧
      (play { config } (before ++ front)).find? id = some d ∧
      d.seeTo? (play { config } (before ++ front)).context e = some d' ∧
      d'.state = c.state ∧ d'.events = c.events := by
  obtain ⟨start, n, e, rest, d, d', hmoves, hrunning, hd, hd', hsee, hs, hevents⟩ :=
    exists_end hc hopened hended
  rcases List.append_eq_append_iff.mp hmoves with ⟨front, rfl, hafter⟩ | ⟨overlap, rfl, hrest⟩
  · exact ⟨front, n, e, rest, d, d', hafter, hrunning, hd, hsee, hs, hevents⟩
  · cases overlap with
    | nil =>
      simp only [List.append_nil] at hd ⊢
      exact ⟨[], n, e, rest, d, d', hrest.symm, by simpa using ⟨hrunning, hd, hsee, hs, hevents⟩⟩
    | cons m overlap =>
      obtain ⟨rfl, _⟩ := List.cons.inj hrest
      obtain ⟨c₂, hc₂, hstate, _⟩ := ended_play overlap
        (Connection.wired_kept.move (Connection.wired_kept.play config start) _) hd' (hs ▸ hended)
      rw [play_split, hc₂] at hc₁
      cases hc₁
      rw [hstate, hs, hended] at hearlier
      cases hearlier

/-- A connection whose close is noted comes to an end before its close frame is sent only where a send
fails or where it takes in the end of the far side. -/
theorem exists_meets_of_hurried {config : ServiceConfig} {before after : List Move} {id : String}
    {c₁ : Connection} (hc₁ : (play { config } before).find? id = some c₁) (hearly : c₁.IsEarly)
    (hnoted : c₁.closeAfterConnect = true)
    (hfirst : (play { config } before).Along (TurnFirst id) after)
    (hc : (play { config } (before ++ after)).find? id = some c) (hopened : .connectSuccess ∈ c.events)
    (hs : c.state = .disconnected) (hnot : .close ∉ c.wire.sent) :
    ∃ front n e rest d d' ending, after = front ++ .errand n e :: rest ∧
      (play { config } (before ++ front)).find? id = some d ∧
      d.seeTo? (play { config } (before ++ front)).context e = some d' ∧ d'.state = .disconnected ∧
      .close ∉ d.wire.sent ∧ d.Meets (play { config } (before ++ front)).context e ending ∧
      (e = .arrival ∨ d.wire.sendFault? ≠ none) := by
  have hended : c.state.isTerminal = true := by rw [hs]; rfl
  obtain ⟨front, n, e, rest, d, d', rfl, hrunning, hd, hsee, hs', hevents⟩ := exists_end_after hc₁
    (by rcases hearly with h | h <;> simp [h, ConnectionState.isTerminal]) hc hopened hended
  have hb := Connection.wired_kept.play config before
  have hkept := Connection.wired_kept.play config (before ++ front)
  obtain ⟨d₁, hd₁, hhurried⟩ := hurried_play front hb hc₁ (along_append.mp hfirst).1
    ⟨by rcases hearly with h | h <;> simp [h], fun _ => hnoted,
      by rcases hearly with h | h <;> simp [h]⟩
  rw [← play_append, hd] at hd₁
  cases hd₁
  rw [← play_append] at hhurried
  have hstanding := (hkept d (List.mem_of_find?_eq_some hd)).1
  rw [hrunning] at hstanding
  obtain ⟨hopen, ending, _, hmeets, _⟩ :=
    Connection.endedWith_of_seeTo? hstanding hsee (hs' ▸ hended) (hevents ▸ hopened)
  have hclosing : d.state = .disconnecting := hopen.resolve_left hhurried.state
  have hunsent : .close ∉ d.wire.sent := fun hmem => by
    obtain ⟨c₂, hc₂, hsince⟩ := closing_play (.errand n e :: rest) hkept hd hclosing
    obtain ⟨new, hnew, _⟩ := hsince.frames
    rw [← play_append, List.append_assoc, hc] at hc₂
    cases hc₂
    exact hnot (hnew ▸ List.mem_append_left _ hmem)
  exact ⟨front, n, e, rest, d, d', ending, rfl, hd, hsee, hs'.trans hs, hunsent, hmeets,
    hhurried.meets hmeets hclosing hunsent⟩

/-- What becomes of a connection whose close is noted. -/
theorem deferred_play {id : String} (moves : List Move) {b : Bridge} {c : Connection}
    {acc : List OutboundFrame} (hb : ∀ c ∈ b.roster, c.Standing b.queues.stopped ∧ c.Wired)
    (hc : b.find? id = some c) (hledger : c.Ledger acc) (h : c.Deferred acc)
    (htexts : ∀ f ∈ acc, ∃ s, f = .text s) :
    ∃ c', (b.play moves).find? id = some c' ∧ c'.Deferred (acc ++ b.record (accepts id) moves) ∧
      ∀ f ∈ acc ++ b.record (accepts id) moves, ∃ s, f = .text s := by
  obtain ⟨c', hc', _, hdeferred, htexts'⟩ := exists_play_of_change (accepts id) acc
    (P := fun c acc => c.Ledger acc ∧ c.Deferred acc ∧ ∀ f ∈ acc, ∃ s, f = .text s)
    (fun {b m c c' acc} hc _ hstanding hwired hchange h => by
      have hid := id_of_find? hc
      subst hid
      obtain ⟨hledger, hdeferred, htexts⟩ := h
      refine ⟨ledger_change hc hstanding hwired hledger hchange,
        deferred_change hc hstanding hwired hledger hdeferred hchange, fun f hf => ?_⟩
      rcases List.mem_append.mp hf with hf | hf
      · exact htexts f hf
      · exact text_of_deferred hc hdeferred m f hf) moves hb hc ⟨hledger, h, htexts⟩
  exact ⟨c', hc', hdeferred, htexts'⟩

end Bridge

/-- A close of a connection whose wire is not open, but asked for, is told `ok`. From then on the events
are at all times a beginning of the one that says that the wire could not be opened, or, once it is open, of
the two that say that it is open and that the connection closed gracefully. Apart from pings the far end
receives a beginning of the texts accepted and then the close frame, and no audio. In a settled bridge it
has received all of that if the wire was opened, as long as the clock reaches and no time passes while the
connection is closing and its driver has a turn, as is so in every scenario; the exception is a connection
that came to an end before, because a send failed or because it took in what ends it from the far end. -/
theorem deferred_close (config : ServiceConfig) (before after : List Move) (id : String)
    (c : Connection) (call : Call) (hc : (Bridge.play { config } before).find? id = some c)
    (hheld : c.held = true) (hstate : c.state = .idle ∨ c.state = .connecting)
    (hcall : call = .close ∨ call = .closeWithCompletion)
    (hok : (c.perform (Bridge.play { config } before).queues call).1 = .done) :
    let moves := before ++ .act (.call id call) :: after
    let b := Bridge.play { config } moves
    let accepted := Bridge.record (Bridge.accepts id) { config } moves
    (∀ f ∈ accepted, ∃ s, f = .text s) ∧
    (∃ c', b.find? id = some c' ∧
      (c'.wire.opened = false → ∃ reason, c'.events <+: [.connectFail reason]) ∧
      (c'.wire.opened = true → c'.events <+: [.connectSuccess, .connectionClosedGracefully]) ∧
      c'.wire.sent.filter (!·.isPing) <+: accepted ++ [.close] ∧
      (∀ bytes, .binary bytes ∉ c'.wire.sent) ∧
      (b.queues.stopped = false → b.Settled → b.ClockReaches c'.config.profile →
        ({ config } : Bridge).Along (Bridge.TurnFirst id) moves → c'.wire.opened = true →
        c'.wire.sent.filter (!·.isPing) = accepted ++ [.close] ∨
          ∃ front n e rest d d' ending, moves = front ++ .errand n e :: rest ∧
            (Bridge.play { config } front).find? id = some d ∧
            d.seeTo? (Bridge.play { config } front).context e = some d' ∧ d'.state = .disconnected ∧
            .close ∉ d.wire.sent ∧ d.Meets (Bridge.play { config } front).context e ending ∧
            (e = .arrival ∨ d.wire.sendFault? ≠ none))) ∧
    ∀ steps : List Step, ∃ moves : List Move, ({ config } : Bridge).Along (Bridge.TurnFirst id) moves ∧
      moves.filterMap Move.action? = steps.flatMap Step.actions ∧
      (Bridge.run { config } steps).2 = Bridge.play { config } moves := by
  intro moves b accepted
  have hsplit : moves = before ++ [.act (.call id call)] ++ after := by simp [moves]
  have hb := Connection.wired_kept.play config (before ++ [.act (.call id call)])
  obtain ⟨c₁, hc₁, hearly, hnoted⟩ := Bridge.exists_noted hc hheld hstate hcall hok
  obtain ⟨hopened, hsent, htexts⟩ := (Bridge.recorded_early id).play config _ hc₁ hearly
  have hevents := hearly.events (hb c₁ (List.mem_of_find?_eq_some hc₁)).1
  obtain ⟨c', hc', hdeferred, htexts'⟩ := Bridge.deferred_play after hb hc₁ (Bridge.ledger_play hc₁)
    (.waiting hearly hnoted hopened hsent hevents) htexts
  rw [← Bridge.record_append, ← hsplit] at hdeferred htexts'
  rw [← Bridge.play_append] at hc'
  have hc'' : b.find? id = some c' := by simpa [b, moves] using hc'
  refine ⟨htexts', ⟨c', hc'', hdeferred.events_unopened, hdeferred.events_opened, hdeferred.frames,
    ?_, ?_⟩, Bridge.exists_turnFirst_run config id⟩
  · intro bytes hmem
    have hframe := hdeferred.frames.mem (List.mem_filter.mpr ⟨hmem, rfl⟩)
    rcases List.mem_append.mp hframe with hf | hf
    · obtain ⟨s, hs⟩ := htexts' _ hf
      cases hs
    · cases List.mem_singleton.mp hf
  · intro hrunning hsettled hreach hfirst hopen
    have hroster := List.mem_of_find?_eq_some hc''
    have hdone : ∀ hmem : .close ∈ c'.wire.sent, _ := hdeferred.all_sent htexts'
    by_cases hclose : .close ∈ c'.wire.sent
    · exact .inl (hdone hclose)
    cases hdeferred with
    | waiting _ _ unopened => simp [unopened] at hopen
    | refused _ unopened => simp [unopened] at hopen
    | closing events _ _ since =>
      rcases since.events with ⟨hs, _⟩ | ⟨hs, hevents⟩
      · have hdriven := Bridge.isDriven_of_state hroster hrunning hreach (.inr hs)
        exact absurd ((hsettled.idle hrunning c' hroster).close hs hdriven) hclose
      · rw [hsplit, Bridge.along_append] at hfirst
        obtain ⟨front, n, e, rest, d, d', ending, rfl, hrest⟩ := Bridge.exists_meets_of_hurried hc₁
          hearly hnoted hfirst.2 hc' (by rw [hevents, events]; simp) hs hclose
        exact .inr ⟨before ++ [.act (.call id call)] ++ front, n, e, rest, d, d', ending,
          by simp [moves], hrest⟩

/-- A text is queued and the connection asked for. -/
def asked : List Move :=
  [.act (.create "a" { sessionId := "a", host := "far", audioCapacity := 8, headerReserve := 2 } none),
    .act (.call "a" (.text "one")), .act (.call "a" .connect)]

/-- Another text and some audio come in time for the open wire, whose far end closes it at once. The
driver takes its turns first. -/
def opening : List Move :=
  [.act (.call "a" (.text "two")), .act (.call "a" (.audio [[1, 2, 3]] none)), .loop, .wait 1,
    .errand 0 .dial, .act (.far "a" (.send [.closed none ""])), .errand 0 .turn, .errand 0 .turn,
    .errand 0 .turn]

/-- All texts are sent and the close frame, although the far end was first to close. -/
theorem deferred_close_opening :
    ∃ c, (Bridge.play { config := {} } (asked ++ .act (.call "a" .close) :: opening)).find? "a" =
        some c ∧ c.events <+: [.connectSuccess, .connectionClosedGracefully] ∧
      c.wire.sent.filter (!·.isPing) = [.text "one", .text "two", .close] := by
  have hready : ((Bridge.play { config := {} } asked).find? "a").any (fun c => decide (c.held = true ∧
      c.state = .idle ∧ (c.perform (Bridge.play { config := {} } asked).queues .close).1 = .done)) =
        true := by decide +kernel
  obtain ⟨c, hc, hcall⟩ := (Option.any_eq_true _ _).mp hready
  obtain ⟨hheld, hs, hok⟩ := of_decide_eq_true hcall
  obtain ⟨_, ⟨c', hc', _, hevents, _, _, hall⟩, _⟩ :=
    deferred_close {} asked opening "a" c .close hc hheld (.inl hs) (.inl rfl) hok
  have hopen : ∀ c ∈ (Bridge.play { config := {} } (asked ++ .act (.call "a" .close) :: opening)).roster,
      c.wire.opened = true ∧
        (Bridge.play { config := {} } (asked ++ .act (.call "a" .close) :: opening)).ClockReaches
          c.config.profile := by decide +kernel
  have hsound : ∀ k < (asked ++ .act (.call "a" .close) :: opening).length, ∀ c ∈ (Bridge.play
      { config := {} } ((asked ++ .act (.call "a" .close) :: opening).take k)).roster,
      c.wire.sendFault? = none := by decide +kernel
  have haccepted : Bridge.record (Bridge.accepts "a") { config := {} }
      (asked ++ .act (.call "a" .close) :: opening) = [.text "one", .text "two"] := by decide +kernel
  obtain ⟨hopened, hreach⟩ := hopen c' (List.mem_of_find?_eq_some hc')
  rcases hall (by decide +kernel) (by decide +kernel) hreach (by decide +kernel) hopened with
    hframes | ⟨front, n, e, rest, d, _, _, hmoves, hd, _, _, _, _, rfl | hfault⟩
  · rw [haccepted] at hframes
    exact ⟨c', hc', hevents hopened, hframes⟩
  · have hmem : .errand n .arrival ∈ asked ++ .act (.call "a" .close) :: opening := by
      rw [hmoves]
      exact List.mem_append_right _ List.mem_cons_self
    simp [asked, opening] at hmem
  · have hbefore : (asked ++ .act (.call "a" .close) :: opening).take front.length = front := by
      rw [hmoves, List.take_left]
    have hlt : front.length < (asked ++ .act (.call "a" .close) :: opening).length := by
      rw [hmoves, List.length_append]
      simp
    refine absurd (hsound _ hlt d ?_) hfault
    rw [hbefore]
    exact List.mem_of_find?_eq_some hd

end VoiceBridge
