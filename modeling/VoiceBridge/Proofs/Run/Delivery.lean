import VoiceBridge.Proofs.Connection.Progress
import VoiceBridge.Proofs.Run.Play

/-!
# What is delivered

What a callback is given is the beginning of one of the lists of `Delivery`, and it agrees with the
state of the connection (`Story`). This rests on `Standing`, which nothing that happens to a connection
breaks (`standing_kept`): a call can only begin to close an open connection, and each kind of progress of
a driver leads from one standing to another.
-/

namespace VoiceBridge

/-- The lists of events that a connection can deliver from its first to its last. -/
inductive Delivery : List EventKind → Prop
  | failed (reason : String) : Delivery [.connectFail reason]
  | dropped {events : List EventKind} : Served events → Delivery (events ++ [.connectionDropped])
  | closed {events : List EventKind} : Served events →
      Delivery (events ++ [.connectionClosedGracefully])

theorem Delivery.of_served {events : List EventKind} (h : Served events) :
    ∃ whole, Delivery whole ∧ events <+: whole :=
  ⟨_, .dropped h, List.prefix_append _ _⟩

/-- An open connection has delivered nothing terminal. -/
theorem Served.not_isTerminal {events : List EventKind} (h : Served events) :
    ∀ e ∈ events, e.isTerminal = false := by
  obtain ⟨traffic, rfl, ht⟩ := h
  intro e he
  rcases List.mem_cons.mp he with rfl | he
  · rfl
  · rw [EventKind.isTerminal, EventKind.outcome?_of_isTraffic (ht e he)]
    rfl

theorem Served.connectSuccess_mem {events : List EventKind} (h : Served events) :
    .connectSuccess ∈ events := by
  obtain ⟨traffic, rfl, _⟩ := h
  exact List.mem_cons_self

theorem Served.countP_isTerminal {events : List EventKind} (h : Served events) :
    events.countP (·.isTerminal) = 0 :=
  List.countP_eq_zero.mpr fun e he => by simp [h.not_isTerminal e he]

namespace Ending

/-- The events that the table gives, each with the states it goes with. -/
theorem verdict_cases {e : Ending} {graceful : Bool} {state final : ConnectionState}
    {last : EventKind} (h : e.verdict? graceful state = some (final, last)) :
    final = .disconnected ∧ last = .connectionClosedGracefully ∨
      (final = .disconnected ∨ final = .failed) ∧ last = .connectionDropped := by
  cases state <;> cases e <;> cases graceful <;> cases h <;> simp

end Ending

namespace Connection

variable {stopped : Bool} {c c' : Connection}

/-- Standing is a matter of four fields. -/
theorem Standing.congr (h : c.Standing stopped) (hp : c'.phase = c.phase) (hs : c'.state = c.state)
    (ho : c'.outcome = c.outcome) (he : c'.events = c.events) : c'.Standing stopped := by
  cases h with
  | fresh phase state outcome events =>
    exact .fresh (hp.trans phase) (hs.trans state) (ho.trans outcome) (he.trans events)
  | dialling running phase state outcome events =>
    exact .dialling running (hp.trans phase) (hs.trans state) (ho.trans outcome) (he.trans events)
  | connected running phase state outcome events closeSent =>
    exact .connected running (hp.trans phase) (hs.trans state) (ho.trans outcome) (he ▸ events)
      closeSent
  | disconnecting running phase state outcome events =>
    exact .disconnecting running (hp.trans phase) (hs.trans state) (ho.trans outcome) (he ▸ events)
  | failed phase state outcome events =>
    exact .failed (hp.trans phase) (hs.trans state) (ho.trans outcome) (he.trans events)
  | dropped phase state outcome events served =>
    exact .dropped (hp.trans phase) (hs ▸ state) (ho.trans outcome) (he.trans events) served
  | closed phase state outcome events served =>
    exact .closed (hp.trans phase) (hs.trans state) (ho.trans outcome) (he.trans events) served
  | cutDialling stopped phase state outcome events =>
    exact .cutDialling stopped (hp.trans phase) (hs.trans state) (ho.trans outcome)
      (he.trans events)
  | cutLive phase state outcome events =>
    exact .cutLive (hp.trans phase) (hs ▸ state) (ho.trans outcome) (he ▸ events)

/-- A call leaves a connection in good standing, also one that begins to close it. -/
theorem Standing.frame {q q' : Requests} (h : c.Standing stopped) (hf : CallFrame c q c' q') :
    c'.Standing stopped := by
  rcases hf.state with hs | ⟨hs, hs'⟩
  · exact h.congr hf.phase hs hf.outcome hf.events
  · have he := hf.events
    cases h with
    | connected running phase state outcome events closeSent =>
      exact .disconnecting running (hf.phase.trans phase) hs' (hf.outcome.trans outcome) (he ▸ events)
    | cutLive phase state outcome events =>
      exact .cutLive (hf.phase.trans phase) (.inr hs') (hf.outcome.trans outcome) (he ▸ events)
    | dropped _ state => simp [hs] at state
    | _ => simp_all

/-- An open connection that stays open may deliver more. -/
theorem Standing.goOn {s s' : Session} {more : List EventKind} (h : c.Standing stopped)
    (hp : c.phase = .live s) (hp' : c'.phase = .live s') (hs : c'.state = c.state)
    (ho : c'.outcome = c.outcome) (he : c'.events = c.events ++ more)
    (hmore : ∀ e ∈ more, e.isTraffic = true)
    (hclose : c.state = .connected → s'.closeSent = false) : c'.Standing stopped := by
  have hserved : Served c'.events := he ▸ (h.served_of_live hp).append hmore
  have hdriven : c.isDriven = true := by simp [isDriven, hp]
  have hrunning := h.running_of_isDriven hdriven
  have houtcome := ho.trans (h.outcome_of_isDriven hdriven)
  rcases h.state_of_live hp with hstate | hstate
  · exact .connected hrunning hp' (hs.trans hstate) houtcome hserved (hclose hstate)
  · exact .disconnecting hrunning hp' (hs.trans hstate) houtcome hserved

/-- A verdict ends an open connection. -/
theorem Standing.of_verdict {e : Ending} {graceful : Bool} {state final : ConnectionState}
    {last : EventKind} {o : TerminalOutcome} (hserved : Served c.events)
    (hv : e.verdict? graceful state = some (final, last)) (ho : last.outcome? = some o)
    (log : List LogLine) : (c.finished final last o log).Standing stopped := by
  rcases Ending.verdict_cases hv with ⟨rfl, rfl⟩ | ⟨hfinal, rfl⟩
  · cases ho
    exact .closed rfl rfl rfl rfl hserved
  · cases ho
    exact .dropped rfl hfinal rfl rfl hserved

theorem notices_isTraffic (c : Connection) : ∀ e ∈ c.notices, e.isTraffic = true := by
  intro e he
  unfold notices at he
  split at he
  · rw [List.mem_singleton.mp he]
    rfl
  · cases he

theorem push_events_isTraffic (bidirectional : Bool) (o : PushOutcome) :
    ∀ e ∈ o.events bidirectional, e.isTraffic = true := by
  intro e he
  cases o with
  | complete m =>
    change e ∈ m.events bidirectional at he
    unfold Message.events at he
    split at he <;> split at he <;> simp_all [EventKind.isTraffic]
  | incomplete => cases he
  | oversized received => cases he
  | skipped => cases he

/-- Every kind of progress leaves a connection in good standing. -/
theorem Standing.progress {ctx : LoopContext} (h : c.Standing false) (hp : Progress ctx c c') :
    c'.Standing false := by
  cases hp with
  | refused e log phase =>
    have hevents : c.events = [] := by cases h <;> simp_all
    exact .failed rfl rfl rfl (by rw [finished, hevents, List.nil_append])
  | opened log phase =>
    have hevents : c.events = [] := by cases h <;> simp_all
    have houtcome := h.outcome_of_isDriven (by simp [isDriven, phase])
    have hserved : Served (c.events ++ [.connectSuccess]) := by
      rw [hevents]
      exact .start
    cases hclose : c.closeAfterConnect with
    | true => exact .disconnecting rfl rfl rfl houtcome hserved
    | false => exact .connected rfl rfl rfl houtcome hserved rfl
  | spent phase => exact h.congr rfl rfl rfl rfl
  | quiet log phase =>
    exact h.goOn phase phase rfl rfl rfl c.notices_isTraffic (h.closeSent_of_connected phase)
  | sent log phase attempt =>
    have hopen := h.closeSent_of_connected phase
    cases attempt with
    | text =>
      exact h.goOn phase phase rfl rfl rfl c.notices_isTraffic hopen
    | close _ _ _ _ state =>
      exact h.goOn phase rfl rfl rfl rfl c.notices_isTraffic fun hs => by simp [state] at hs
    | audio =>
      exact h.goOn phase phase rfl rfl rfl c.notices_isTraffic hopen
    | ping =>
      exact h.goOn phase rfl rfl rfl (List.append_nil _).symm (by simp) hopen
  | lost log phase attempt fault verdict outcome =>
    have hserved := h.served_of_live phase
    cases attempt with
    | text => exact .of_verdict (hserved.append c.notices_isTraffic) verdict outcome log
    | close => exact .of_verdict (hserved.append c.notices_isTraffic) verdict outcome log
    | audio => exact .of_verdict (hserved.append c.notices_isTraffic) verdict outcome log
    | ping => exact .of_verdict hserved verdict outcome log
  | discarded phase =>
    have hopen := h.closeSent_of_connected phase
    exact h.goOn phase rfl rfl rfl (List.append_nil _).symm (by simp) hopen
  | taken log phase =>
    have hopen := h.closeSent_of_connected phase
    exact h.goOn phase rfl rfl rfl rfl (push_events_isTraffic _ _) hopen
  | heard phase =>
    have hopen := h.closeSent_of_connected phase
    exact h.goOn phase rfl rfl rfl (List.append_nil _).symm (by simp) hopen
  | ended log phase _ _ verdict outcome =>
    refine .of_verdict ?_ verdict outcome log
    exact h.served_of_live phase
  | expired log phase _ verdict outcome =>
    exact .of_verdict (h.served_of_live phase) verdict outcome log
  | broken phase =>
    exact .cutLive rfl (h.state_of_live phase) (h.outcome_of_isDriven (by simp [isDriven, phase]))
      (h.served_of_live phase)

theorem Standing.of_create {id : String} {config : ConnectionConfig} {panicsOn : Option String}
    (h : Connection.create id config panicsOn = .ok c) : c.Standing stopped := by
  obtain ⟨_, _, rfl⟩ := create_eq h
  exact .fresh rfl rfl rfl rfl

/-- A far end adds to what comes in and looks at what was sent. -/
theorem farCall_eq (c : Connection) (call : FarCall) :
    ∃ inbound collected, (c.farCall call).2 = { c with wire := { c.wire with inbound, collected } } := by
  cases call with
  | send arrivals =>
    unfold farCall
    dsimp only
    split
    · exact ⟨_, c.wire.collected, rfl⟩
    · exact ⟨c.wire.inbound, c.wire.collected, rfl⟩
  | session => exact ⟨c.wire.inbound, c.wire.collected, rfl⟩
  | next => exact ⟨c.wire.inbound, _, rfl⟩
  | nextData => exact ⟨c.wire.inbound, _, rfl⟩
  | nextUntil kind => exact ⟨c.wire.inbound, _, rfl⟩

/-- Nothing that happens to a connection breaks its standing. -/
theorem standing_kept : Bridge.KeptByMoves fun stopped c => c.Standing stopped where
  create h := .of_create h
  call call h := h.frame (.perform _ _ call)
  far {_ c} call h := by
    obtain ⟨_, _, hfar⟩ := c.farCall_eq call
    rw [hfar]
    exact h.congr rfl rfl rfl rfl
  takeConnect {c} b h := by
    by_cases hc : c.isAlive = true ∧ c.state = .idle
    · rw [Bridge.takeConnect_of_idle hc.1 hc.2]
      have hfresh := h.of_idle hc.2
      exact .dialling rfl rfl rfl hfresh.2.1 hfresh.2.2
    · rw [Bridge.takeConnect_of_not hc]
      exact h
  takeDisconnect {c} h := by
    rw [Bridge.takeDisconnect_eq]
    exact h.congr rfl rfl rfl rfl
  takeWrite {c} h := by
    rw [Bridge.takeWrite_eq]
    exact h.congr rfl rfl rfl rfl
  seeTo hsee h := h.progress (progress_of_seeTo? h hsee)
  abandon h := h.congr rfl rfl rfl rfl
  shutdown {c} h := by
    split
    · rename_i hd
      cases h with
      | fresh phase => simp [isDriven, phase] at hd
      | dialling _ _ state outcome events => exact .cutDialling rfl rfl state outcome events
      | connected _ _ state outcome events => exact .cutLive rfl (.inl state) outcome events
      | disconnecting _ _ state outcome events => exact .cutLive rfl (.inr state) outcome events
      | _ => simp_all [isDriven]
    · rename_i hd
      cases h with
      | fresh phase state outcome events => exact .fresh phase state outcome events
      | failed phase state outcome events => exact .failed phase state outcome events
      | dropped phase state outcome events served =>
        exact .dropped phase state outcome events served
      | closed phase state outcome events served =>
        exact .closed phase state outcome events served
      | cutLive phase state outcome events => exact .cutLive phase state outcome events
      | _ => simp_all [isDriven]

/-! ### The events of a connection in good standing -/

/-- How the events and the state of a connection go together. -/
inductive Story (c : Connection) : Prop
  | silent (events : c.events = []) (state : c.state.isTerminal = false)
  | refused {reason : String} (events : c.events = [.connectFail reason]) (state : c.state = .failed)
  | served (events : Served c.events) (state : c.state.isTerminal = false)
  | ended {before : List EventKind} {last : EventKind} (events : c.events = before ++ [last])
      (served : Served before)
      (state : last = .connectionDropped ∧ (c.state = .disconnected ∨ c.state = .failed) ∨
        last = .connectionClosedGracefully ∧ c.state = .disconnected)

theorem Standing.story (h : c.Standing stopped) : c.Story := by
  cases h with
  | fresh _ state _ events => exact .silent events (by rw [state]; rfl)
  | dialling _ _ state _ events => exact .silent events (by rw [state]; rfl)
  | connected _ _ state _ events => exact .served events (by rw [state]; rfl)
  | disconnecting _ _ state _ events => exact .served events (by rw [state]; rfl)
  | failed _ state _ events => exact .refused events state
  | dropped _ state _ events served => exact .ended events served (.inl ⟨rfl, state⟩)
  | closed _ state _ events served => exact .ended events served (.inr ⟨rfl, state⟩)
  | cutDialling _ _ state _ events => exact .silent events (by rw [state]; rfl)
  | cutLive _ state _ events =>
    exact .served events (by rcases state with state | state <;> rw [state] <;> rfl)

/-- The driver is gone and the end of the connection was never announced. -/
structure CutOff (c : Connection) : Prop where
  phase : c.phase = .over
  outcome : c.outcome = none

instance (c : Connection) : Decidable c.CutOff :=
  decidable_of_iff (c.phase = .over ∧ c.outcome = none) ⟨fun h => ⟨h.1, h.2⟩, fun h => ⟨h.phase, h.outcome⟩⟩

/-- A driver that is gone has announced the end, unless it was cut off. -/
theorem Standing.countP_of_over (h : c.Standing stopped) (hp : c.phase = .over) (hcut : ¬c.CutOff) :
    c.events.countP (·.isTerminal) = 1 := by
  have ho : c.outcome ≠ none := fun ho => hcut ⟨hp, ho⟩
  cases h with
  | failed _ _ _ events => rw [events]; rfl
  | dropped _ _ _ events served => rw [events, List.countP_append, served.countP_isTerminal]; rfl
  | closed _ _ _ events served => rw [events, List.countP_append, served.countP_isTerminal]; rfl
  | _ => simp_all

namespace Story

theorem delivery (h : c.Story) : ∃ whole, Delivery whole ∧ c.events <+: whole := by
  cases h with
  | silent events =>
    rw [events]
    exact ⟨_, .failed "", List.nil_prefix⟩
  | refused events =>
    rw [events]
    exact ⟨_, .failed _, List.prefix_rfl⟩
  | served events => exact Delivery.of_served events
  | ended events served state =>
    rw [events]
    rcases state with ⟨rfl, _⟩ | ⟨rfl, _⟩
    · exact ⟨_, .dropped served, List.prefix_rfl⟩
    · exact ⟨_, .closed served, List.prefix_rfl⟩

theorem connectFail_iff (h : c.Story) :
    (∃ reason, .connectFail reason ∈ c.events) ↔ c.state = .failed ∧ .connectSuccess ∉ c.events := by
  cases h with
  | silent events state =>
    have hs : c.state ≠ .failed := fun hs => by simp [hs, ConnectionState.isTerminal] at state
    simp [events, hs]
  | refused events state => simp [events, state]
  | served events =>
    refine ⟨fun ⟨reason, hr⟩ => ?_, fun h => absurd events.connectSuccess_mem h.2⟩
    cases events.not_isTerminal _ hr
  | ended events served state =>
    refine ⟨fun ⟨reason, hr⟩ => ?_, fun h => ?_⟩
    · rw [events] at hr
      rcases List.mem_append.mp hr with hr | hr
      · cases served.not_isTerminal _ hr
      · rcases state with ⟨rfl, _⟩ | ⟨rfl, _⟩ <;> cases List.mem_singleton.mp hr
    · rw [events] at h
      exact absurd (List.mem_append_left _ served.connectSuccess_mem) h.2

/-- A terminal event after the first stands at the end and says the state. -/
theorem state_of_mem (h : c.Story) {e : EventKind} (he : e ∈ c.events)
    (hterm : e.isTerminal = true) (hfail : ∀ reason, e ≠ .connectFail reason) :
    e = .connectionDropped ∧ (c.state = .disconnected ∨ c.state = .failed) ∨
      e = .connectionClosedGracefully ∧ c.state = .disconnected := by
  cases h with
  | silent events => simp [events] at he
  | refused events =>
    rw [events] at he
    exact absurd (List.mem_singleton.mp he) (hfail _)
  | served events => simp [events.not_isTerminal e he] at hterm
  | ended events served state =>
    rw [events] at he
    rcases List.mem_append.mp he with he | he
    · simp [served.not_isTerminal e he] at hterm
    · rw [List.mem_singleton.mp he]
      exact state

/-- Terminal events, of which there is at most one, and terminal states come together. -/
theorem countP_eq (h : c.Story) :
    c.events.countP (·.isTerminal) = if c.state.isTerminal then 1 else 0 := by
  cases h with
  | silent events state => simp [events, state]
  | refused events state => rw [events, state]; rfl
  | served events state => rw [events.countP_isTerminal, state]; rfl
  | ended events served state =>
    rw [events, List.countP_append, served.countP_isTerminal]
    rcases state with ⟨rfl, hs | hs⟩ | ⟨rfl, hs⟩ <;> rw [hs] <;> rfl

end Story

end Connection

/-- All events but the last of a whole delivery leave the connection open. -/
theorem Delivery.exists_last {whole : List EventKind} (h : Delivery whole) :
    ∃ before last, whole = before ++ [last] ∧ ∀ e ∈ before, e.isTerminal = false := by
  cases h with
  | failed reason => exact ⟨[], _, rfl, by simp⟩
  | dropped served => exact ⟨_, _, rfl, served.not_isTerminal⟩
  | closed served => exact ⟨_, _, rfl, served.not_isTerminal⟩

/-- The first event tells how the request to connect went. -/
theorem Delivery.exists_first {whole : List EventKind} (h : Delivery whole) :
    ∃ e rest, whole = e :: rest ∧ (e = .connectSuccess ∨ ∃ reason, e = .connectFail reason) := by
  have hserved : ∀ {events : List EventKind} (last : EventKind), Served events →
      ∃ e rest, events ++ [last] = e :: rest ∧
        (e = .connectSuccess ∨ ∃ reason, e = .connectFail reason) := by
    rintro _ last ⟨traffic, rfl, -⟩
    exact ⟨_, traffic ++ [last], rfl, .inl rfl⟩
  cases h with
  | failed reason => exact ⟨_, [], rfl, .inr ⟨reason, rfl⟩⟩
  | dropped served => exact hserved _ served
  | closed served => exact hserved _ served

/-- Nothing follows a terminal event. -/
theorem Delivery.nothing_after {whole before after : List EventKind} {e : EventKind}
    (h : Delivery whole) (hb : before ++ e :: after <+: whole) (he : e.isTerminal = true) :
    after = [] := by
  obtain ⟨rest, hrest⟩ := hb
  obtain ⟨front, last, hwhole, hfront⟩ := h.exists_last
  have hnil : after ++ rest = [] := by
    rcases List.eq_nil_or_concat (after ++ rest) with hnil | ⟨front', last', hcat⟩
    · exact hnil
    · have heq : (before ++ e :: front') ++ [last'] = front ++ [last] := by
        rw [← hwhole, ← hrest, List.append_assoc, List.append_assoc, List.cons_append,
          List.cons_append, hcat, List.concat_eq_append]
      have hmem : e ∈ front := by
        rw [← (List.append_inj' heq rfl).1]
        exact List.mem_append_right _ List.mem_cons_self
      simp [hfront e hmem] at he
  exact (List.append_eq_nil_iff.mp hnil).1

end VoiceBridge
