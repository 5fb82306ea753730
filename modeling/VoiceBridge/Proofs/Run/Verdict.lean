import VoiceBridge.Proofs.Run.Closing

/-!
# The verdict on an ended connection

A driver ends its connection when what it sees to meets one of the endings; `Meets` has one constructor
for each of them. Where several things are ready that would end the connection, it is the one that the
driver sees to that counts. What becomes of the connection is read off a table that looks at the state and
at the `graceful` mark as they are in that step, and both may have been changed by calls since the wire was
opened. `graceful_iff` says which calls set the mark, and `termination_table` puts the table in terms of
the run.
-/

namespace VoiceBridge

/-- Nothing is terminal among the events of an open connection. -/
theorem Served.filter_isTerminal {events : List EventKind} (h : Served events) :
    events.filter (·.isTerminal) = [] :=
  List.filter_eq_nil_iff.mpr fun e he => by simp [h.not_isTerminal e he]

namespace Connection

variable {c c' d : Connection} {ctx : LoopContext}

/-! ### The endings -/

/-- What the driver of an open connection meets that ends it, seeing to one thing. -/
inductive Meets (ctx : LoopContext) (c : Connection) : Errand → Ending → Prop
  | closeFrame {s : Session} {code : Option Nat} {reason : String} {rest : List Arrival}
      (phase : c.phase = .live s) (inbound : c.wire.inbound = .closed code reason :: rest) :
      Meets ctx c .arrival .remoteClose
  | receiveError {s : Session} {e : LinkError} {rest : List Arrival} (phase : c.phase = .live s)
      (inbound : c.wire.inbound = .failed e :: rest) : Meets ctx c .arrival (.lost e.message)
  | endOfStream {s : Session} {rest : List Arrival} (phase : c.phase = .live s)
      (inbound : c.wire.inbound = .ended :: rest) :
      Meets ctx c .arrival (.lost "connection reset without close frame")
  /-- Text, audio or a close frame is to be sent and cannot be. -/
  | sendError {s : Session} {f : OutboundFrame} {reason : String} (phase : c.phase = .live s)
      (aim : c.aim? = some f) (fault : c.wire.sendFault? = some reason) :
      Meets ctx c .turn (.lost (LinkError.send reason).message)
  /-- A ping is due and cannot be sent. -/
  | pingError {s : Session} {p : PingTimer} {reason : String} (phase : c.phase = .live s)
      (closeSent : s.closeSent = false) (timer : s.ping = some p) (due : p.next < ctx.now)
      (fault : c.wire.sendFault? = some reason) :
      Meets ctx c .ping (.lost (LinkError.send reason).message)
  | silence {s : Session} (phase : c.phase = .live s) (pinging : s.ping.isSome = true)
      (late : s.lastHeard + ctx.config.pongTimeout.nanos < ctx.now) : Meets ctx c .silence .silence
  | noCloseReply {s : Session} {deadline : Nat} (phase : c.phase = .live s)
      (waiting : s.closeDeadline = some deadline) (late : deadline < ctx.now) :
      Meets ctx c .closeTimeout .noCloseReply

/-- A driver that takes in a close frame meets no other ending with it. -/
theorem Meets.eq_remoteClose {errand : Errand} {e : Ending} (h : c.Meets ctx errand e)
    (hclose : c.Meets ctx errand .remoteClose) : e = .remoteClose := by
  obtain ⟨_, hin⟩ := hclose
  cases h with
  | closeFrame => rfl
  | receiveError _ inbound | endOfStream _ inbound => simp [hin] at inbound

theorem Meets.of_arrival {s : Session} {a : Arrival} {rest : List Arrival} {e : Ending}
    (hp : c.phase = .live s) (hin : c.wire.inbound = a :: rest) (h : a.ending? = some e) :
    c.Meets ctx .arrival e := by
  cases a with
  | fragment | heartbeat => cases h
  | closed => cases h; exact .closeFrame hp hin
  | failed => cases h; exact .receiveError hp hin
  | ended => cases h; exact .endOfStream hp hin

/-! ### The step that ends a connection -/

/-- A connection whose driver is at work has not ended. -/
theorem Standing.isTerminal_of_isDriven {stopped : Bool} (h : c.Standing stopped)
    (hd : c.isDriven = true) : c.state.isTerminal = false := by
  unfold isDriven at hd
  cases h <;> simp_all [ConnectionState.isTerminal]

theorem filter_isTerminal_finished {final : ConnectionState} {last : EventKind} {o : TerminalOutcome}
    (log : List LogLine) (h : Served d.events) (ho : last.outcome? = some o) :
    (d.finished final last o log).events.filter (·.isTerminal) = [last] := by
  rw [finished, List.filter_append, h.filter_isTerminal]
  simp [EventKind.isTerminal, ho]

/-- The connection was ended with what the driver saw to, as the table says. -/
def EndedWith (ctx : LoopContext) (c : Connection) (errand : Errand) (c' : Connection) : Prop :=
  ∃ e last, c.Meets ctx errand e ∧ e.verdict? c.graceful c.state = some (c'.state, last) ∧
    c'.events.filter (·.isTerminal) = [last]

section Ends

variable {s : Session}

/-- To end an open connection is to follow the table. -/
theorem endedWith_endedBy {errand : Errand} {e : Ending} (hmeets : c.Meets ctx errand e)
    (hs : d.state = .connected ∨ d.state = .disconnecting) (ho : d.outcome = none)
    (hserved : Served d.events) (hstate : d.state = c.state) (hgraceful : d.graceful = c.graceful) :
    c.EndedWith ctx errand (d.endedBy ctx e) := by
  obtain ⟨final, last, o, hv, hm, hlast⟩ := e.exists_verdict d.graceful hs
  obtain ⟨log, hended⟩ := endedBy_eq ho hv hm hlast ctx
  rw [hended]
  refine ⟨e, last, hmeets, ?_, filter_isTerminal_finished log hserved hlast⟩
  rw [← hstate, ← hgraceful]
  exact hv

/-- A turn leaves the connection in its state or fails to send. -/
theorem endedWith_turn (hp : c.phase = .live s) (hstanding : c.Standing false)
    (hw : c.writable = true) :
    (afterSend ctx (c.turn ctx s)).state = c.state ∨
      c.EndedWith ctx .turn (afterSend ctx (c.turn ctx s)) := by
  have hs := hstanding.state_of_live hp
  have ho := hstanding.outcome_of_isDriven (by simp [isDriven, hp])
  rcases turn_cases ctx hp hs ho hw with
    ⟨_, hturn⟩ | ⟨_, _, _, _, log, hturn⟩ | ⟨f, before, after, haim, hattempt, hsend⟩
  · rw [hturn]
    exact .inl rfl
  · rw [hturn]
    exact .inl rfl
  · rcases afterSend_eq hs ho hattempt hsend with
      ⟨_, log, heq⟩ | ⟨_, _, last, _, log, hfault, hverdict, hlast, heq⟩
    · rw [heq]
      refine .inl ?_
      cases hattempt <;> rfl
    · have hserved : Served before.events := by
        have hbefore := hstanding.served_of_live hp
        cases hattempt with
        | text | close | audio => exact hbefore.append c.notices_isTraffic
        | ping => exact hbefore
      rw [heq]
      exact .inr ⟨_, last, .sendError hp haim hfault, hverdict,
        filter_isTerminal_finished log hserved hlast⟩

/-- What arrives leaves the connection in its state or ends it. -/
theorem endedWith_takeIn {a : Arrival} {rest : List Arrival} (hp : c.phase = .live s)
    (hstanding : c.Standing false) (hin : c.wire.inbound = a :: rest) :
    ({ c with wire := { c.wire with inbound := rest } }.takeIn ctx s a).state = c.state ∨
      c.EndedWith ctx .arrival ({ c with wire := { c.wire with inbound := rest } }.takeIn ctx s a) := by
  have hs := hstanding.state_of_live hp
  have ho := hstanding.outcome_of_isDriven (by simp [isDriven, hp])
  have hend : ∀ e, a.ending? = some e → c.EndedWith ctx .arrival
      ({ c with wire := { c.wire with inbound := rest } }.endedBy ctx e) := fun e he =>
    endedWith_endedBy (.of_arrival hp hin he) hs ho (hstanding.served_of_live hp) rfl rfl
  cases a with
  | fragment f =>
    refine .inl ?_
    unfold takeIn takeFragment
    dsimp only
    split
    · rfl
    · obtain ⟨log, htake⟩ := pushFragment_eq (c := { c with wire := { c.wire with inbound := rest } })
        ho { s with lastHeard := ctx.now } f
      rw [htake]
  | heartbeat => exact .inl rfl
  | closed code reason => exact .inr (hend .remoteClose rfl)
  | failed e => exact .inr (hend (.lost e.message) rfl)
  | ended => exact .inr (hend _ rfl)

/-- A ping leaves the connection in its state or cannot be sent. -/
theorem endedWith_transmit (hmeets : ∀ reason, d.wire.sendFault? = some reason →
      c.Meets ctx .ping (.lost (LinkError.send reason).message))
    (hs : d.state = .connected ∨ d.state = .disconnecting) (ho : d.outcome = none)
    (hserved : Served d.events) (hstate : d.state = c.state) (hgraceful : d.graceful = c.graceful) :
    (afterSend ctx (d.transmit ctx.network (.ping []))).state = c.state ∨
      c.EndedWith ctx .ping (afterSend ctx (d.transmit ctx.network (.ping []))) := by
  rcases transmit_eq ctx.network d (.ping []) with ⟨reason, hfault, hsend⟩ | ⟨_, log, hsend⟩
  · rw [hsend]
    exact .inr (endedWith_endedBy (hmeets reason hfault) hs ho hserved hstate hgraceful)
  · rw [hsend]
    exact .inl hstate

theorem endedWith_sendPing {p : PingTimer} (hp : c.phase = .live s) (hstanding : c.Standing false)
    (hclose : s.closeSent = false) (htimer : s.ping = some p) (hdue : p.next < ctx.now) :
    (c.sendPing ctx s p).state = c.state ∨ c.EndedWith ctx .ping (c.sendPing ctx s p) := by
  have hs := hstanding.state_of_live hp
  have ho := hstanding.outcome_of_isDriven (by simp [isDriven, hp])
  by_cases hlate : (p.ticked ctx.now).next < clockEnd
  · rw [sendPing, if_pos hlate]
    exact endedWith_transmit
      (d := { c with phase := .live { s with ping := some (p.ticked ctx.now) } })
      (fun _ hfault => .pingError hp hclose htimer hdue hfault) hs ho (hstanding.served_of_live hp)
      rfl rfl
  · rw [sendPing, if_neg hlate]
    exact .inl rfl

/-- The driver that ends a connection that was opened has met an ending with what it saw to. -/
theorem endedWith_of_seeTo? {e : Errand} (hstanding : c.Standing false)
    (hsee : c.seeTo? ctx e = some c') (hended : c'.state.isTerminal = true)
    (hopened : .connectSuccess ∈ c'.events) :
    (c.state = .connected ∨ c.state = .disconnecting) ∧ c.EndedWith ctx e c' := by
  unfold seeTo? at hsee
  split at hsee
  · cases hsee
  · cases hsee
  · rename_i since delay hp
    have ho := hstanding.outcome_of_isDriven (by simp [isDriven, hp])
    cases progress_of_dial hp (hstanding.state_of_dialling hp) ho hsee with
    | refused e log phase =>
      have hnone : c.events = [] := by cases hstanding <;> simp_all
      simp [finished, hnone] at hopened
    | opened =>
      cases hclose : c.closeAfterConnect <;> simp [hclose, ConnectionState.isTerminal] at hended
    | _ => simp_all
  · rename_i s hp
    have hs := hstanding.state_of_live hp
    have ho := hstanding.outcome_of_isDriven (by simp [isDriven, hp])
    have hserved := hstanding.served_of_live hp
    have hopen : c'.state ≠ c.state := by
      intro hsame
      rw [hsame] at hended
      rcases hs with hs | hs <;> simp [hs, ConnectionState.isTerminal] at hended
    refine ⟨hs, ?_⟩
    split at hsee
    · unfold attend? at hsee
      split at hsee
      · split at hsee
        · rename_i hw
          cases hsee
          exact (endedWith_turn hp hstanding hw).resolve_left hopen
        · cases hsee
      · split at hsee
        · rename_i a rest hin
          cases hsee
          exact (endedWith_takeIn hp hstanding hin).resolve_left hopen
        · cases hsee
      · obtain ⟨p, hping, rfl⟩ := Option.map_eq_some_iff.mp hsee
        rw [Option.filter_eq_some_iff, Bool.and_eq_true, Bool.not_eq_true', decide_eq_true_eq] at hping
        exact (endedWith_sendPing hp hstanding hping.2.1 hping.1 hping.2.2).resolve_left hopen
      · split at hsee
        · rename_i hsilent
          cases hsee
          exact endedWith_endedBy (.silence hp hsilent.1 hsilent.2) hs ho hserved rfl rfl
        · cases hsee
      · split at hsee
        · rename_i hlate
          cases hsee
          obtain ⟨deadline, hdeadline, hpast⟩ := (Option.any_eq_true _ _).mp hlate
          exact endedWith_endedBy (.noCloseReply hp hdeadline (of_decide_eq_true hpast)) hs ho hserved
            rfl rfl
        · cases hsee
      · cases hsee
    · split at hsee
      · cases hsee
        exact absurd rfl hopen
      · cases hsee

end Ends

theorem Progress.graceful (h : Progress ctx c c') : c'.graceful = c.graceful := by
  cases h with
  | sent log phase attempt => cases attempt <;> rfl
  | lost log phase attempt => cases attempt <;> rfl
  | _ => rfl

end Connection

namespace Bridge

/-! ### The mark of `finish` -/

theorem graceful_change {b : Bridge} {c c' : Connection} {m : Move} (h : Change b c m c') :
    c'.graceful = c.graceful ∨
      m = .act (.call c.id .finish) ∧ c.held = true ∧ c.state = .connected ∧ c'.graceful = true := by
  cases h with
  | @call call held =>
    rcases (c.scope_perform b.queues call).graceful with hsame | ⟨rfl, hs, hg⟩
    · exact .inl hsame
    · exact .inr ⟨rfl, held, hs, hg⟩
  | @far call =>
    obtain ⟨_, _, hfar⟩ := c.farCall_eq call
    exact .inl (by rw [hfar])
  | takenUp =>
    obtain ⟨_, _, _, heq, _, rfl | ⟨_, _, rfl⟩⟩ := takenUp_cases b c <;> rw [heq] <;> exact .inl rfl
  | progress _ progress => exact .inl progress.graceful
  | unheld | other | cut | spared => exact .inl rfl

/-- An action that came in a run and its answer. -/
def Answered (config : ServiceConfig) (moves : List Move) (action : Action) (answer : Answer) : Prop :=
  ∃ before after, moves = before ++ .act action :: after ∧
    ((play { config } before).act action).1 = answer

/-- The mark is set exactly if a `finish` was told `ok`. -/
theorem graceful_iff {config : ServiceConfig} {moves : List Move} {id : String} {c : Connection}
    (hc : (play { config } moves).find? id = some c)
    (hrunning : (play { config } moves).queues.stopped = false) :
    c.graceful = true ↔ Answered config moves (.call id .finish) .done := by
  constructor
  · intro h
    obtain ⟨before, m, after, d, d', rfl, hd, -, hchange, hnot, hg⟩ :=
      exists_turn (P := fun c => c.graceful = true) (fun hcreate => by
        obtain ⟨_, _, rfl⟩ := Connection.create_eq hcreate
        exact Bool.false_ne_true) hc h
    rcases graceful_change hchange with hsame | ⟨rfl, hheld, hs, -⟩
    · exact absurd (hsame ▸ hg) hnot
    · have hid := id_of_find? hd
      rw [play_append] at hrunning
      have hok : (d.finish (play { config } before).queues).1 = .ok () := by
        unfold Connection.finish
        rw [if_neg (not_not.mpr hs)]
        exact Connection.requestWrite_ok (running_of_play hrunning)
      refine ⟨before, after, by rw [hid], ?_⟩
      rw [act_call_answer hd hheld]
      exact Answer.ofUnit_eq_done.mpr hok
  · rintro ⟨before, after, rfl, hdone⟩
    obtain ⟨d, hd, hheld, hanswer⟩ := exists_of_done hdone
    have hg : (d.perform (play { config } before).queues .finish).2.1.graceful = true := by
      rcases Connection.finish_effect d (play { config } before).queues with ⟨hs, _⟩ | ⟨_, _, heq⟩
      · have hok : (d.finish (play { config } before).queues).1 = .ok () :=
          Answer.ofUnit_eq_done.mp hanswer
        rw [Connection.finish, if_pos hs] at hok
        cases hok
      · change (d.finish (play { config } before).queues).2.1.graceful = true
        rw [heq]
    rw [play_append, play_cons] at hc
    obtain ⟨c', hc', hg'⟩ := exists_play_of_kept (P := fun c => c.graceful = true)
      (fun _ _ hchange hg => (graceful_change hchange).elim (·.trans hg) (·.2.2.2)) after
      (Connection.wired_kept.move (Connection.wired_kept.play config before) _)
      (find?_call_held hd hheld .finish) hg
    rw [hc] at hc'
    cases hc'
    exact hg'

/-! ### The end in a run -/

/-- What has ended stays as it is. -/
theorem ended_play {id : String} (moves : List Move) {b : Bridge} {d : Connection}
    (hb : ∀ c ∈ b.roster, c.Standing b.queues.stopped ∧ c.Wired) (hd : b.find? id = some d)
    (hended : d.state.isTerminal = true) :
    ∃ c, (b.play moves).find? id = some c ∧ c.state = d.state ∧ c.events = d.events := by
  refine exists_play_of_kept (P := fun c => c.state = d.state ∧ c.events = d.events)
    (fun hstanding _ hchange h => ?_) moves hb hd ⟨rfl, rfl⟩
  rw [← h.1] at hended
  rcases hchange.progress_or_undriven with ⟨_, _, _, running, progress⟩ | hundriven
  · rw [hstanding.isTerminal_of_isDriven progress.isDriven] at hended
    cases hended
  · have hs := hundriven.state_eq (by rintro hs; simp [hs, ConnectionState.isTerminal] at hended)
      (by rintro hs; simp [hs, ConnectionState.isTerminal] at hended)
    exact ⟨hs.trans h.1, hundriven.events.trans h.2⟩

/-- A connection that was opened and has ended was ended by its driver. -/
theorem exists_end {config : ServiceConfig} {moves : List Move} {id : String} {c : Connection}
    (hc : (play { config } moves).find? id = some c) (hopened : .connectSuccess ∈ c.events)
    (hended : c.state.isTerminal = true) :
    ∃ before n e after d d', moves = before ++ .errand n e :: after ∧
      (play { config } before).queues.stopped = false ∧
      (play { config } before).find? id = some d ∧
      ((play { config } before).move (.errand n e)).find? id = some d' ∧
      d.seeTo? (play { config } before).context e = some d' ∧
      d'.state = c.state ∧ d'.events = c.events := by
  obtain ⟨before, m, after, d, d', rfl, hd, hd', hchange, hnot, hended', hopened'⟩ :=
    exists_turn (P := fun c => c.state.isTerminal = true ∧ .connectSuccess ∈ c.events) (fun hcreate => by
      obtain ⟨_, _, rfl⟩ := Connection.create_eq hcreate
      exact fun h => Bool.false_ne_true h.1) hc ⟨hended, hopened⟩
  rw [play_append, play_cons] at hc
  obtain ⟨c₁, hc₁, hs, hevents⟩ := ended_play after
    (Connection.wired_kept.move (Connection.wired_kept.play config before) m) hd' hended'
  rw [hc] at hc₁
  cases hc₁
  rcases hchange.progress_or_undriven with ⟨n, e, rfl, _, _⟩ | hundriven
  · cases hchange with
    | progress running _ _ ready =>
      exact ⟨before, n, e, after, d, d', rfl, running, hd, hd', ready, hs.symm, hevents.symm⟩
    | spared => exact absurd ⟨hended', hopened'⟩ hnot
  · rw [hundriven.events] at hopened'
    rcases hundriven.state with hsame | ⟨_, hs'⟩ | ⟨_, hs'⟩
    · exact absurd ⟨hsame ▸ hended', hopened'⟩ hnot
    · simp [hs', ConnectionState.isTerminal] at hended'
    · simp [hs', ConnectionState.isTerminal] at hended'

end Bridge

/-- As long as the service runs, a connection that was opened and has ended was ended by its driver, which
met one of the endings with what it saw to. Whatever ends a closing connection ends it gracefully. Of a
connected one only the close of the far end, taken in, leaves it disconnected, gracefully so exactly if a
`finish` was told `ok` before; all other endings fail and drop it. -/
theorem termination_table (config : ServiceConfig) (moves : List Move) (id : String) (c : Connection)
    (hc : (Bridge.play { config } moves).find? id = some c)
    (hrunning : (Bridge.play { config } moves).queues.stopped = false)
    (hopened : .connectSuccess ∈ c.events) (hended : c.state.isTerminal = true) :
    ∃ before n e after d d', moves = before ++ .errand n e :: after ∧
      (Bridge.play { config } before).find? id = some d ∧
      (Bridge.play { config } (before ++ [.errand n e])).find? id = some d' ∧
      d.seeTo? (Bridge.play { config } before).context e = some d' ∧
      d'.state = c.state ∧ d'.events = c.events ∧
      (d.state = .connected ∨ d.state = .disconnecting) ∧
      (∃ ending, d.Meets (Bridge.play { config } before).context e ending) ∧
      (d.state = .disconnecting →
        c.state = .disconnected ∧ c.events.filter (·.isTerminal) = [.connectionClosedGracefully]) ∧
      (d.state = .connected → d.Meets (Bridge.play { config } before).context e .remoteClose →
        c.state = .disconnected ∧
        (Bridge.Answered config before (.call id .finish) .done →
          c.events.filter (·.isTerminal) = [.connectionClosedGracefully]) ∧
        (¬Bridge.Answered config before (.call id .finish) .done →
          c.events.filter (·.isTerminal) = [.connectionDropped])) ∧
      (d.state = .connected → ¬d.Meets (Bridge.play { config } before).context e .remoteClose →
        c.state = .failed ∧ c.events.filter (·.isTerminal) = [.connectionDropped]) := by
  obtain ⟨before, n, e, after, d, d', rfl, hrun, hd, hd', hsee, hs, hevents⟩ :=
    Bridge.exists_end hc hopened hended
  have hstanding := Connection.standing_kept.play config before d (List.mem_of_find?_eq_some hd)
  rw [hrun] at hstanding
  obtain ⟨hopen, ending, last, hmeets, hverdict, hlast⟩ :=
    Connection.endedWith_of_seeTo? hstanding hsee (hs ▸ hended) (hevents ▸ hopened)
  have hmark := Bridge.graceful_iff hd hrun
  rw [hs] at hverdict
  rw [hevents] at hlast
  refine ⟨before, n, e, after, d, d', rfl, hd, ?_, hsee, hs, hevents, hopen, ⟨ending, hmeets⟩,
    ?_, ?_, ?_⟩
  · rw [Bridge.play_append]
    exact hd'
  · intro hclosing
    rw [hclosing] at hverdict
    obtain ⟨hfinal, rfl⟩ := Prod.mk.inj (Option.some.inj hverdict)
    exact ⟨hfinal.symm, hlast⟩
  · intro hconn hclose
    rw [hmeets.eq_remoteClose hclose, hconn] at hverdict
    obtain ⟨hfinal, rfl⟩ := Prod.mk.inj (Option.some.inj hverdict)
    refine ⟨hfinal.symm, fun htold => ?_, fun huntold => ?_⟩
    · rw [hlast, if_pos (hmark.mpr htold)]
    · rw [hlast, if_neg (huntold ∘ hmark.mp)]
  · intro hconn hother
    rw [hconn] at hverdict
    cases ending with
    | remoteClose => exact absurd hmeets hother
    | lost | silence | noCloseReply =>
      obtain ⟨hfinal, rfl⟩ := Prod.mk.inj (Option.some.inj hverdict)
      exact ⟨hfinal.symm, hlast⟩

/-- The far end closes a connection on which `finish` was called. -/
def finishing : List Move :=
  [.act (.create "a" { sessionId := "a", host := "far" } none), .act (.call "a" .connect), .loop,
    .wait 1, .errand 0 .dial, .act (.call "a" .finish), .loop, .errand 0 .turn,
    .act (.far "a" (.send [.closed none ""])), .errand 0 .arrival]

/-- The call was told `ok` before the close was taken in. -/
theorem termination_table_finishing :
    ∃ before n e after, finishing = before ++ .errand n e :: after ∧
      Bridge.Answered {} before (.call "a" .finish) .done := by
  have hopen : ((Bridge.play { config := {} } finishing).find? "a").any (fun c =>
      decide (.connectSuccess ∈ c.events ∧ c.state = .disconnected ∧
        c.events.filter (·.isTerminal) = [.connectionClosedGracefully])) = true := by decide +kernel
  have hrunning : (Bridge.play { config := {} } finishing).queues.stopped = false := by decide +kernel
  obtain ⟨c, hc, hends⟩ := (Option.any_eq_true _ _).mp hopen
  obtain ⟨hopened, hs, hlast⟩ := of_decide_eq_true hends
  obtain ⟨before, n, e, after, d, _, hmoves, hd, -, -, -, -, hstate, -, -, hclosed, hother⟩ :=
    termination_table {} finishing "a" c hc hrunning hopened (by rw [hs]; rfl)
  -- Nobody has asked for a close.
  have hnever : ∀ k < finishing.length, ∀ c ∈ (Bridge.play { config := {} } (finishing.take k)).roster,
      c.state ≠ .disconnecting := by decide +kernel
  have hbefore : finishing.take before.length = before := by rw [hmoves, List.take_left]
  have hlt : before.length < finishing.length := by
    rw [hmoves, List.length_append]
    simp
  have hconn : d.state = .connected := by
    refine hstate.resolve_right (hnever _ hlt d ?_)
    rw [hbefore]
    exact List.mem_of_find?_eq_some hd
  refine ⟨before, n, e, after, hmoves, ?_⟩
  by_contra huntold
  by_cases hclose : d.Meets (Bridge.play { config := {} } before).context e .remoteClose
  · have hdropped := (hclosed hconn hclose).2.2 huntold
    rw [hlast] at hdropped
    cases hdropped
  · have hfailed := (hother hconn hclose).1
    rw [hs] at hfailed
    cases hfailed

end VoiceBridge
