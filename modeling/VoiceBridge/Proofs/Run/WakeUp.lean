import VoiceBridge.Proofs.Connection.Wiring
import VoiceBridge.Proofs.Run.Named

/-!
# No lost wake-up

Four signals ask for work to be done: the write-queued flag of a connection, the entries of the work
queues, the wake-up of the loop and the permit of a driver for a writable turn. `Tracked` says where
the requests of a connection are, and `Prompt` that whatever there is to do has been asked for.

Between calls both hold of every connection. While the buffer is held, audio that has just been written
is not yet asked for; only queued text is, until the release makes up for it. A round of the loop turns
requests into permits, and a turn that leaves something to do keeps its permit.
-/

namespace VoiceBridge

namespace Connection

/-- The driver has sent its close frame. -/
def closeSent (c : Connection) : Bool :=
  match c.phase with
  | .live s => s.closeSent
  | .absent | .dialling .. | .over => false

/-- Where the requests of a connection are. -/
structure Tracked (c : Connection) (q : Requests) : Prop where
  connects : c.state = .idle → c.connectRequested = true → c.held = true → c.id ∈ q.connects
  disconnects : c.state = .disconnecting → c.isDriven = true →
    c.closeSent = true ∨ c.writable = true ∨ c.id ∈ q.disconnects
  writes : c.isAlive = true → q.writes.count c.id = if c.writeQueued then 1 else 0

/-- A connected connection with something to do has a permit or has asked for one. -/
def Prompt (busy : Connection → Bool) (c : Connection) : Prop :=
  c.state = .connected → busy c = true → c.writable = true ∨ c.writeQueued = true

/-- What there is to do while the buffer is held: audio does not count yet. -/
def hasText (c : Connection) : Bool := !c.outbox.isEmpty

theorem enqueue_of_running {q : Requests} (hs : q.stopped = false) (kind : WorkKind) (id : String) :
    q.enqueue kind id = (.ok (), match kind with
      | .connect => { q with wake := true, connects := q.connects ++ [id] }
      | .disconnect => { q with wake := true, disconnects := q.disconnects ++ [id] }
      | .write => { q with wake := true, writes := q.writes ++ [id] }) := by
  cases kind <;> simp [WorkQueues.enqueue, hs]

section Calls

variable {c : Connection} {q : Requests}

/-- Where the requests are is a matter of a few fields. -/
theorem Tracked.congr {c' : Connection} (h : c.Tracked q) (hid : c'.id = c.id)
    (hs : c'.state = c.state) (hr : c'.connectRequested = c.connectRequested)
    (hh : c'.held = c.held) (hp : c'.phase = c.phase) (hw : c'.writable = c.writable)
    (hq : c'.writeQueued = c.writeQueued) : c'.Tracked q := by
  have hclose : c'.closeSent = c.closeSent := by unfold closeSent; rw [hp]
  have hdriven : c'.isDriven = c.isDriven := by unfold isDriven; rw [hp]
  have halive : c'.isAlive = c.isAlive := by unfold isAlive; rw [hh, hdriven]
  refine ⟨?_, ?_, ?_⟩
  · rw [hid, hs, hr, hh]
    exact h.connects
  · rw [hid, hs, hw, hclose, hdriven]
    exact h.disconnects
  · rw [hid, halive, hq]
    exact h.writes

theorem Tracked.requestWrite (h : c.Tracked q) (hs : q.stopped = false) :
    (c.requestWrite q).2.1.Tracked (c.requestWrite q).2.2 ∧
      (c.requestWrite q).2.1.writeQueued = true := by
  unfold Connection.requestWrite
  split
  · rename_i hflag
    exact ⟨h, hflag⟩
  · rename_i hflag
    rw [Bool.not_eq_true] at hflag
    rw [enqueue_of_running hs]
    refine ⟨⟨h.connects, h.disconnects, fun ha => ?_⟩, rfl⟩
    have hcount := h.writes ha
    rw [hflag] at hcount
    change (q.writes ++ [c.id]).count c.id = 1
    rw [List.count_append, hcount, List.count_singleton_self]
    rfl

/-- Between calls everything there is to do has been asked for. -/
def Watched (busy : Connection → Bool) (c : Connection) (q : Requests) : Prop :=
  q.stopped = false ∧ c.Tracked q ∧ c.Prompt busy

variable {busy : Connection → Bool}

/-- To ask for a turn makes up for whatever was not asked for. -/
theorem Watched.of_requestWrite (h : c.Tracked q) (hs : q.stopped = false) :
    (c.requestWrite q).2.1.Watched busy (c.requestWrite q).2.2 := by
  obtain ⟨htracked, hflag⟩ := h.requestWrite hs
  exact ⟨(stopped_requestWrite c q).trans hs, htracked, fun _ _ => .inr hflag⟩

theorem Watched.finish (h : c.Watched busy q) :
    (c.finish q).2.1.Watched busy (c.finish q).2.2 := by
  unfold Connection.finish
  split
  · exact h
  · exact .of_requestWrite (h.2.1.congr rfl rfl rfl rfl rfl rfl rfl) h.1

theorem Watched.queueText (h : c.Watched busy q) (s : String) :
    (c.queueText s q).2.1.Watched busy (c.queueText s q).2.2 := by
  have htracked : { c with outbox := c.outbox ++ [OutboundFrame.text s] }.Tracked q :=
    h.2.1.congr rfl rfl rfl rfl rfl rfl rfl
  unfold Connection.queueText
  split <;> rename_i hs
  · exact h
  · exact h
  · exact h
  · exact ⟨h.1, htracked, fun hconn => by simp [hs] at hconn⟩
  · exact ⟨h.1, htracked, fun hconn => by simp [hs] at hconn⟩
  · exact .of_requestWrite htracked h.1

theorem Watched.connect (h : c.Watched busy q) :
    (c.connect q).2.1.Watched busy (c.connect q).2.2 := by
  unfold Connection.connect
  split
  · exact h
  · rename_i hidle
    have hidle : c.state = .idle := not_not.mp hidle
    rw [enqueue_of_running h.1]
    refine ⟨h.1, ⟨fun _ _ _ => List.mem_append_right _ (List.mem_singleton.mpr rfl), ?_, h.2.1.writes⟩,
      fun hconn => by simp [hidle] at hconn⟩
    intro hdis
    simp [hidle] at hdis

theorem Watched.close (h : c.Watched busy q)
    (hb : ∀ closeAfterConnect, busy { c with closeAfterConnect } = busy c) :
    (c.close q).2.1.Watched busy (c.close q).2.2 := by
  have hdefer : { c with closeAfterConnect := true }.Watched busy q := by
    refine ⟨h.1, h.2.1.congr rfl rfl rfl rfl rfl rfl rfl, fun hconn hbusy => ?_⟩
    rw [hb] at hbusy
    exact h.2.2 hconn hbusy
  unfold Connection.close
  split
  · split
    · exact hdefer
    · exact h
  · exact hdefer
  · rename_i hconn
    rw [beginDisconnect_eq hconn]
    dsimp only
    rw [enqueue_of_running h.1]
    exact ⟨h.1, ⟨fun hs => (by cases hs),
      fun _ _ => .inr (.inr (List.mem_append_right _ (List.mem_singleton.mpr rfl))), h.2.1.writes⟩,
      fun hs => (by cases hs)⟩
  all_goals exact h

/-- To release the buffer asks for what was written meanwhile. -/
theorem Watched.release (h : c.Watched hasText q) :
    (c.releaseAudio q).1.Watched hasOutboundWork (c.releaseAudio q).2 := by
  unfold Connection.releaseAudio
  split
  · exact .of_requestWrite h.2.1 h.1
  · rename_i hnothing
    refine ⟨h.1, h.2.1, fun hconn hbusy => h.2.2 hconn ?_⟩
    rw [isConnected, hconn] at hnothing
    unfold hasOutboundWork at hbusy
    unfold hasText
    simp_all

theorem Watched.drop (h : c.Watched hasOutboundWork q) : c.dropHandle.Watched hasOutboundWork q := by
  obtain ⟨waits, heq⟩ := dropHandle_effect c
  rw [heq]
  refine ⟨h.1, ⟨fun _ _ hheld => (by cases hheld), h.2.1.disconnects, fun ha => h.2.1.writes ?_⟩, h.2.2⟩
  have hdriven : c.isDriven = true := ha
  rw [isAlive, hdriven, Bool.or_true]

/-- After a call everything there is to do has been asked for. -/
theorem watched_kept : KeptByCalls (Watched hasOutboundWork) (Watched hasText) where
  connect h := h.connect
  close h := h.close fun _ => rfl
  subscribe h := ⟨h.1, h.2.1.congr rfl rfl rfl rfl rfl rfl rfl, h.2.2⟩
  finish h := h.finish
  queueText s h := h.queueText s
  warn _ h := ⟨h.1, h.2.1.congr rfl rfl rfl rfl rfl rfl rfl, h.2.2⟩
  drop h := h.drop
  hold h := ⟨h.1, h.2.1, fun hconn htext => h.2.2 hconn (by
    unfold hasText at htext
    unfold hasOutboundWork
    rw [htext, Bool.true_or, Bool.true_or])⟩
  write {c q} chunk h := by
    obtain ⟨_, _, heq⟩ := writeAudio_effect c chunk
    rw [heq]
    exact ⟨h.1, h.2.1.congr rfl rfl rfl rfl rfl rfl rfl, h.2.2⟩
  commit _ _ h := ⟨h.1, h.2.1.congr rfl rfl rfl rfl rfl rfl rfl, h.2.2⟩
  queueHeld s h := h.queueText s
  release h := h.release

end Calls

section Drivers

variable {ctx : LoopContext} {c c' : Connection} {q : Requests}

theorem Progress.isDriven (h : Progress ctx c c') : c.isDriven = true := by
  cases h <;> simp [Connection.isDriven, *]

theorem Progress.writeQueued (h : Progress ctx c c') : c'.writeQueued = c.writeQueued := by
  cases h with
  | sent log phase attempt => cases attempt <;> rfl
  | lost log phase attempt => cases attempt <;> rfl
  | _ => rfl

theorem Progress.phase_ne_absent (h : Progress ctx c c') : c'.phase ≠ .absent := by
  cases h with
  | sent log phase attempt => cases attempt <;> simp [turned, phase]
  | broken => simp [driverGone]
  | _ => simp [finished, turned, *]

/-- Behind a step of its driver a connection is not idle. -/
theorem Progress.begun (h : Progress ctx c c') (hstanding : c.Standing false) : c'.state ≠ .idle :=
  fun hs => h.phase_ne_absent ((hstanding.progress h).of_idle hs).1

theorem closeSent_of_live {s : Session} (hp : c.phase = .live s) : c.closeSent = s.closeSent := by
  simp [closeSent, hp]

/-- After a step a closing connection without a request has sent its close frame or has a permit. -/
theorem Progress.closing (h : Progress ctx c c')
    (hc : c.state = .disconnecting → c.isDriven = true →
      c.closeSent = true ∨ c.writable = true ∨ c.id ∈ q.disconnects) :
    c'.state = .disconnecting → c'.isDriven = true →
      c'.closeSent = true ∨ c'.writable = true ∨ c'.id ∈ q.disconnects := by
  intro hs hd
  have hdriven := h.isDriven
  cases h with
  | refused => cases hs
  | opened log phase =>
    cases hclose : c.closeAfterConnect with
    | true => exact .inr (.inl (by simp))
    | false => simp [hclose] at hs
  | spent phase _ closeSent => exact .inl ((closeSent_of_live phase).trans closeSent)
  | quiet _ _ _ _ _ state => exact absurd (state.symm.trans hs) (by decide)
  | sent log phase attempt =>
    cases attempt with
    | text =>
      have hclosing : c.state = .disconnecting := hs
      exact .inr (.inl (by simp [turned, hclosing]))
    | close => exact .inl rfl
    | audio _ _ _ _ state => exact absurd (state.symm.trans hs) (by decide)
    | ping =>
      rw [closeSent_of_live phase] at hc
      exact hc hs hdriven
  | lost _ _ _ _ verdict =>
    rcases Ending.verdict_cases verdict with ⟨rfl, _⟩ | ⟨rfl | rfl, _⟩ <;> cases hs
  | discarded phase =>
    rw [closeSent_of_live phase] at hc
    exact hc hs hdriven
  | taken _ _ _ state => exact absurd (state.symm.trans hs) (by decide)
  | heard phase =>
    rw [closeSent_of_live phase] at hc
    exact hc hs hdriven
  | ended _ _ _ _ verdict =>
    rcases Ending.verdict_cases verdict with ⟨rfl, _⟩ | ⟨rfl | rfl, _⟩ <;> cases hs
  | expired _ _ _ verdict =>
    rcases Ending.verdict_cases verdict with ⟨rfl, _⟩ | ⟨rfl | rfl, _⟩ <;> cases hs
  | broken => cases hd

/-- A turn that leaves something to do keeps its permit. -/
theorem Progress.prompt (h : Progress ctx c c') (hstanding : c.Standing false)
    (hc : c.Prompt hasOutboundWork) : c'.Prompt hasOutboundWork := by
  intro hs hbusy
  cases h with
  | refused => cases hs
  | opened log phase =>
    have hwork : c.hasOutboundWork = true := hbusy
    exact .inl (by simp [hwork])
  | spent phase _ closeSent =>
    rw [hstanding.closeSent_of_connected phase hs] at closeSent
    cases closeSent
  | quiet _ _ _ _ _ state pending =>
    simp [hasOutboundWork, turned, isConnected, state, pending] at hbusy
  | sent log phase attempt =>
    cases attempt with
    | text =>
      have hconn : c.state = .connected := hs
      simp only [hasOutboundWork, turned, isConnected, hconn] at hbusy
      exact .inl (by simpa [turned, hconn] using hbusy)
    | close _ _ _ _ state => exact absurd (state.symm.trans hs) (by decide)
    | audio _ _ _ _ state =>
      simp [hasOutboundWork, turned, isConnected, state, AudioBuffer.hasPending_reset] at hbusy
    | ping => exact hc hs hbusy
  | lost _ _ _ _ verdict =>
    rcases Ending.verdict_cases verdict with ⟨rfl, _⟩ | ⟨rfl | rfl, _⟩ <;> cases hs
  | discarded _ _ state => exact absurd (state.symm.trans hs) (by decide)
  | taken => exact hc hs hbusy
  | heard => exact hc hs hbusy
  | ended _ _ _ _ verdict =>
    rcases Ending.verdict_cases verdict with ⟨rfl, _⟩ | ⟨rfl | rfl, _⟩ <;> cases hs
  | expired _ _ _ verdict =>
    rcases Ending.verdict_cases verdict with ⟨rfl, _⟩ | ⟨rfl | rfl, _⟩ <;> cases hs
  | broken => exact hc hs hbusy

theorem Watched.progress (h : c.Watched hasOutboundWork q) (hstanding : c.Standing false)
    (hp : Progress ctx c c') : c'.Watched hasOutboundWork q := by
  refine ⟨h.1, ⟨fun hidle => ?_, hp.closing h.2.1.disconnects, fun _ => ?_⟩,
    hp.prompt hstanding h.2.2⟩
  · exact absurd ((hstanding.progress hp).of_idle hidle).1 hp.phase_ne_absent
  · rw [hp.id, hp.writeQueued]
    exact h.2.1.writes (by rw [isAlive, hp.isDriven, Bool.or_true])

end Drivers

/-! ### Requests taken up by the loop -/

section Loop

variable {c : Connection} {q : Requests}

theorem Watched.takeConnect (b : Bridge) (h : c.Watched hasOutboundWork q) :
    (if c.id ∈ q.connects then b.takeConnect c else c).Watched hasOutboundWork
      { q with connects := [] } := by
  have hkept : (c.state = .idle → c.connectRequested = true → c.held = true → False) →
      c.Watched hasOutboundWork { q with connects := [] } := fun hidle =>
    ⟨h.1, ⟨fun hs hr hh => (hidle hs hr hh).elim, h.2.1.disconnects, h.2.1.writes⟩, h.2.2⟩
  split
  · by_cases hc : c.isAlive = true ∧ c.state = .idle
    · rw [Bridge.takeConnect_of_idle hc.1 hc.2]
      exact ⟨h.1, ⟨fun hs => (by cases hs), fun hs => (by cases hs), fun _ => h.2.1.writes hc.1⟩,
        fun hs => (by cases hs)⟩
    · rw [Bridge.takeConnect_of_not hc]
      exact hkept fun hs _ hh => hc ⟨by rw [isAlive, hh, Bool.true_or], hs⟩
  · rename_i hout
    exact hkept fun hs hr hh => hout (h.2.1.connects hs hr hh)

theorem Watched.takeDisconnect (h : c.Watched hasOutboundWork q) :
    (if c.id ∈ q.disconnects then Bridge.takeDisconnect c else c).Watched hasOutboundWork
      { q with disconnects := [] } := by
  split
  · rw [Bridge.takeDisconnect_eq]
    refine ⟨h.1, ⟨h.2.1.connects, fun hs hd => .inr (.inl ?_), h.2.1.writes⟩, fun hs hbusy => ?_⟩
    · have hclosing : c.state = .disconnecting := hs
      have hdriven : c.isDriven = true := hd
      simp [isAlive, hdriven, hclosing]
    · rcases h.2.2 hs hbusy with hw | hq
      · exact .inl (by simp [hw])
      · exact .inr hq
  · rename_i hout
    refine ⟨h.1, ⟨h.2.1.connects, fun hs hd => ?_, h.2.1.writes⟩, h.2.2⟩
    rcases h.2.1.disconnects hs hd with hsent | hw | hin
    · exact .inl hsent
    · exact .inr (.inl hw)
    · exact absurd hin hout

theorem Watched.takeWrite (h : c.Watched hasOutboundWork q) :
    (if c.id ∈ q.writes then Bridge.takeWrite c else c).Watched hasOutboundWork
      { q with writes := [] } := by
  split
  · rw [Bridge.takeWrite_eq]
    refine ⟨h.1, ⟨h.2.1.connects, fun hs hd => ?_, fun ha => ?_⟩, fun hs hbusy => ?_⟩
    · rcases h.2.1.disconnects hs hd with hsent | hw | hin
      · exact .inl hsent
      · exact .inr (.inl (by simp [hw]))
      · exact .inr (.inr hin)
    · have ha : c.isAlive = true := ha
      simp [ha]
    · have hconn : c.state = .connected := hs
      rcases h.2.2 hs hbusy with hw | hq
      · exact .inl (by simp [hw])
      · cases ha : c.isAlive with
        | true => exact .inl (by simp [isConnected, hconn])
        | false => exact .inr (by simp [hq])
  · rename_i hout
    refine ⟨h.1, ⟨h.2.1.connects, h.2.1.disconnects, fun ha => ?_⟩, h.2.2⟩
    rw [← h.2.1.writes ha, List.count_eq_zero.mpr hout]
    rfl

/-- A round of the loop turns the requests of a connection into what they ask for. -/
theorem Watched.takenUp {b : Bridge} (h : c.Watched hasOutboundWork b.queues) :
    (b.takenUp c).Watched hasOutboundWork
      { b.queues with connects := [], disconnects := [], writes := [], wake := false } := by
  have hconnect := h.takeConnect b
  unfold Bridge.takenUp
  dsimp only
  generalize (if c.id ∈ b.queues.connects then b.takeConnect c else c) = d at hconnect ⊢
  have hdisconnect := hconnect.takeDisconnect
  dsimp only at hdisconnect
  generalize (if d.id ∈ b.queues.disconnects then Bridge.takeDisconnect d else d) = e
    at hdisconnect ⊢
  have hwrite := hdisconnect.takeWrite
  exact ⟨hwrite.1, ⟨hwrite.2.1.connects, hwrite.2.1.disconnects, hwrite.2.1.writes⟩, hwrite.2.2⟩

/-- What others ask for is nothing to a connection. -/
theorem Watched.asked {id : String} {q' : Requests} (h : c.Watched hasOutboundWork q)
    (hid : c.id ≠ id) (ha : Asked id q q') : c.Watched hasOutboundWork q' := by
  refine ⟨ha.stopped.trans h.1, ⟨fun hs hr hh => ?_, fun hs hd => ?_, fun halive => ?_⟩, h.2.2⟩
  · exact ha.connects _ (h.2.1.connects hs hr hh)
  · rcases h.2.1.disconnects hs hd with hsent | hw | hin
    · exact .inl hsent
    · exact .inr (.inl hw)
    · exact .inr (.inr (ha.disconnects _ hin))
  · rw [ha.writes _ hid]
    exact h.2.1.writes halive

end Loop

end Connection

namespace Bridge

/-! ### The whole bridge -/

/-- No request is lost and none is left without a wake-up. -/
structure Vigilant (b : Bridge) : Prop where
  heard : b.queues.Heard
  named : ∀ id ∈ b.queues.writes, b.find? id ≠ none
  watched : ∀ id c, b.find? id = some c → c.Watched Connection.hasOutboundWork b.queues

/-- A name once given stays given. -/
theorem find?_move_ne_none {b : Bridge} (hb : ∀ c ∈ b.roster, c.Standing b.queues.stopped)
    {id : String} (h : b.find? id ≠ none) (m : Move) : (b.move m).find? id ≠ none := by
  obtain ⟨c, hc⟩ := Option.ne_none_iff_exists'.mp h
  obtain ⟨c', hc', _⟩ := find?_move_of_some hb hc m
  simp [hc']

theorem heard_move {b : Bridge} {m : Move} (h : b.queues.Heard)
    (hrunning : (b.move m).queues.stopped = false) :
    (b.move m).queues.Heard := by
  rcases queues_cases b m with ⟨id, call, rfl⟩ | ⟨rfl, hs, hw⟩ | ⟨rfl, _⟩ | hq
  · exact (asked_move_call b id call).heard h
  · rw [queues_move_loop hs hw]
    intro hne
    simp at hne
  · rw [stopped_move_shutdown] at hrunning
    cases hrunning
  · rw [hq]
    exact h

theorem named_move {b : Bridge} (hb : ∀ c ∈ b.roster, c.Standing b.queues.stopped)
    (h : ∀ id ∈ b.queues.writes, b.find? id ≠ none) {m : Move}
    (hrunning : (b.move m).queues.stopped = false) :
    ∀ id ∈ (b.move m).queues.writes, (b.move m).find? id ≠ none := by
  intro id hid
  rcases queues_cases b m with ⟨name, call, rfl⟩ | ⟨rfl, hs, hw⟩ | ⟨rfl, _⟩ | hq
  · by_cases hin : id ∈ b.queues.writes
    · exact find?_move_ne_none hb (h id hin) _
    · -- Only a call on the name itself can have put it there.
      by_cases hname : id = name
      · subst hname
        refine find?_move_ne_none hb (fun hnone => hin ?_) _
        have hq : (b.move (.act (.call id call))).queues = b.queues := by
          rw [move_act, act_call, hnone]
        rwa [hq] at hid
      · have hcount := (asked_move_call b name call).writes id hname
        rw [List.count_eq_zero.mpr hin] at hcount
        exact absurd hid (List.count_eq_zero.mp hcount)
  · rw [queues_move_loop hs hw] at hid
    simp at hid
  · rw [stopped_move_shutdown] at hrunning
    cases hrunning
  · rw [hq] at hid
    exact find?_move_ne_none hb (h id hid) _

theorem Connection.Watched.of_create {id : String} {config : ConnectionConfig}
    {panicsOn : Option String} {c : Connection} {q : Requests} (hs : q.stopped = false)
    (hid : id ∉ q.writes) (h : Connection.create id config panicsOn = .ok c) :
    c.Watched Connection.hasOutboundWork q := by
  have hname := Connection.id_of_create h
  have hnew := Unreached.of_create h
  refine ⟨hs, ⟨fun _ hr => ?_, fun hdis => ?_, fun _ => ?_⟩, fun hconn => ?_⟩
  · rw [hnew.connectRequested] at hr
    cases hr
  · rw [hnew.state] at hdis
    cases hdis
  · rw [hnew.writeQueued, hname, List.count_eq_zero.mpr hid]
    rfl
  · rw [hnew.state] at hconn
    cases hconn

/-- What a move makes of the connection of a name is as well looked after as before. -/
theorem watched_move {b : Bridge} (hb : ∀ c ∈ b.roster, c.Standing b.queues.stopped)
    {c c' : Connection} {m : Move} (hc : b.find? c.id = some c)
    (h : c.Watched Connection.hasOutboundWork b.queues) (hchange : Change b c m c')
    (hrunning : (b.move m).queues.stopped = false) :
    c'.Watched Connection.hasOutboundWork (b.move m).queues := by
  have hstanding : c.Standing false := h.1 ▸ hb c (List.mem_of_find?_eq_some hc)
  cases hchange with
  | call held =>
    rw [queues_move_held hc held]
    exact Connection.watched_kept.perform _ h
  | unheld held =>
    rw [queues_move_unheld hc held]
    exact h
  | other ne => exact h.asked (Ne.symm ne) (asked_move_call b _ _)
  | @far call =>
    obtain ⟨_, _, hfar⟩ := c.farCall_eq call
    rw [queues_move (by simp) (by simp) (by simp), hfar]
    exact ⟨h.1, h.2.1.congr rfl rfl rfl rfl rfl rfl rfl, h.2.2⟩
  | takenUp running wake =>
    rw [queues_move_loop running wake]
    exact h.takenUp
  | progress running progress =>
    rw [queues_move (by simp) (by simp) (by simp)]
    exact h.progress hstanding progress
  | cut =>
    rw [stopped_move_shutdown] at hrunning
    cases hrunning
  | spared quiet asleep stopped =>
    rw [queues_move quiet asleep stopped]
    exact h

theorem Vigilant.move {b : Bridge} (hb : ∀ c ∈ b.roster, c.Standing b.queues.stopped)
    (h : b.Vigilant) {m : Move} (hrunning : (b.move m).queues.stopped = false) :
    (b.move m).Vigilant := by
  refine ⟨heard_move h.heard hrunning, named_move hb h.named hrunning, fun id c' hc' => ?_⟩
  cases hc : b.find? id with
  | none =>
    obtain ⟨config, panicsOn, rfl, hcreate⟩ := find?_move_of_none hb hc hc'
    have hq : (b.move (.act (.create id config panicsOn))).queues = b.queues :=
      queues_move (by simp) (by simp) (by simp)
    rw [hq] at hrunning ⊢
    exact Connection.Watched.of_create hrunning (fun hin => h.named id hin hc) hcreate
  | some c =>
    have hchange := change_of_find? hb hc hc'
    have hid := id_of_find? hc
    subst hid
    exact watched_move hb hc (h.watched _ c hc) hchange hrunning

/-- As long as the bridge runs, it looks after all requests. -/
theorem vigilant_play (config : ServiceConfig) (moves : List Move)
    (hrunning : (play { config } moves).queues.stopped = false) : (play { config } moves).Vigilant := by
  have hplay : ∀ (moves : List Move) {b : Bridge}, (∀ c ∈ b.roster, c.Standing b.queues.stopped) →
      (b.queues.stopped = false → b.Vigilant) →
      (b.play moves).queues.stopped = false → (b.play moves).Vigilant := by
    intro moves
    induction moves with
    | nil => exact fun _ h => h
    | cons m moves ih =>
      intro b hb h
      exact ih (Connection.standing_kept.move hb m) fun hrunning =>
        (h (running_of_move hrunning)).move hb hrunning
  refine hplay moves (fun _ hc => (List.not_mem_nil hc).elim) (fun _ => ⟨?_, ?_, ?_⟩) hrunning
  · intro hne
    simp at hne
  · intro id hid
    simp at hid
  · intro id c hc
    simp [find?] at hc

/-- Without a wake-up no request waits. -/
theorem queues_eq_nil_of_heard {q : Requests} (h : q.Heard) (hwake : q.wake = false) :
    q.connects = [] ∧ q.disconnects = [] ∧ q.writes = [] := by
  have hnone : ¬(q.connects ≠ [] ∨ q.disconnects ≠ [] ∨ q.writes ≠ []) := by
    intro hne
    rw [h hne] at hwake
    cases hwake
  simpa [not_or] using hnone

/-- In a settled bridge no request waits. -/
theorem Vigilant.queues_eq_nil {b : Bridge} (h : b.Vigilant) (hwake : b.queues.wake = false) :
    b.queues.connects = [] ∧ b.queues.disconnects = [] ∧ b.queues.writes = [] :=
  queues_eq_nil_of_heard h.heard hwake

end Bridge

namespace Connection

/-- Whatever there was to do on a connection has been done, if there is a driver to do it. -/
structure Idle (c : Connection) : Prop where
  writeQueued : c.isAlive = true → c.writeQueued = false
  connect : c.connectRequested = true → c.held = true → c.state ≠ .idle
  work : c.state = .connected → c.isDriven = true →
    c.outbox = [] ∧ c.audio.hasPending = false ∧ c.overrunNotice = false
  close : c.state = .disconnecting → c.isDriven = true → .close ∈ c.wire.sent

theorem Idle.of_unreached {c : Connection} (h : Bridge.Unreached c) : c.Idle where
  writeQueued _ := h.writeQueued
  connect hr := by rw [h.connectRequested] at hr; cases hr
  work hs := by rw [h.state] at hs; cases hs
  close hs := by rw [h.state] at hs; cases hs

/-- What there is to do is underway, by a permit or by a place in a queue. -/
theorem Watched.underway {c : Connection} {q : Requests} (h : c.Watched hasOutboundWork q)
    (hstanding : c.Standing false) (hwired : c.Wired) :
    (c.state = .connected → c.isDriven = true → c.hasOutboundWork = true →
      c.writable = true ∨ c.writeQueued = true ∧ q.writes.count c.id = 1) ∧
    (c.isAlive = true → q.writes.count c.id = if c.writeQueued then 1 else 0) ∧
    (c.state = .disconnecting → c.isDriven = true →
      .close ∈ c.wire.sent ∨ c.writable = true ∨ c.id ∈ q.disconnects) := by
  refine ⟨fun hs hd hwork => ?_, h.2.1.writes, fun hs hd => ?_⟩
  · have halive : c.isAlive = true := by simp [isAlive, hd]
    rcases h.2.2 hs hwork with hw | hq
    · exact .inl hw
    · exact .inr ⟨hq, by rw [h.2.1.writes halive, if_pos hq]⟩
  · obtain ⟨s, hp⟩ := hstanding.live_of_state (.inr hs) hd
    rcases h.2.1.disconnects hs hd with hsent | hw | hin
    · exact .inl ((hwired.closeSent s hp).mp ((closeSent_of_live hp).symm.trans hsent))
    · exact .inr (.inl hw)
    · exact .inr (.inr hin)

/-- Once the queues are empty and no turn is left there is nothing to do. -/
theorem Watched.idle {c : Connection} {q : Requests} (h : c.Watched hasOutboundWork q)
    (hstanding : c.Standing false) (hwired : c.Wired) (hconnects : q.connects = [])
    (hdisconnects : q.disconnects = []) (hwrites : q.writes = [])
    (hturn : c.isLive = true → c.writable = false) : c.Idle := by
  have hflag : c.isAlive = true → c.writeQueued = false := by
    intro ha
    have hcount := h.2.1.writes ha
    rw [hwrites] at hcount
    cases hq : c.writeQueued with
    | false => rfl
    | true => simp [hq] at hcount
  refine ⟨hflag, fun hr hh hs => ?_, fun hs hd => ?_, fun hs hd => ?_⟩
  · have hin := h.2.1.connects hs hr hh
    rw [hconnects] at hin
    cases hin
  · obtain ⟨s, hp⟩ := hstanding.live_of_state (.inl hs) hd
    have halive : c.isAlive = true := by simp [isAlive, hd]
    have hquiet : c.hasOutboundWork = false := by
      cases hwork : c.hasOutboundWork with
      | false => rfl
      | true =>
        rcases h.2.2 hs hwork with hw | hq
        · rw [hturn (isLive_of_phase hp)] at hw
          cases hw
        · rw [hflag halive] at hq
          cases hq
    simpa [hasOutboundWork, and_assoc] using hquiet
  · obtain ⟨s, hp⟩ := hstanding.live_of_state (.inr hs) hd
    rcases h.2.1.disconnects hs hd with hsent | hw | hin
    · exact (hwired.closeSent s hp).mp ((closeSent_of_live hp).symm.trans hsent)
    · rw [hturn (isLive_of_phase hp)] at hw
      cases hw
    · rw [hdisconnects] at hin
      cases hin

end Connection

/-- In a settled bridge there is nothing left to do on any connection. -/
theorem Bridge.Settled.idle {config : ServiceConfig} {moves : List Move}
    (hrunning : (Bridge.play { config } moves).queues.stopped = false)
    (h : (Bridge.play { config } moves).Settled) :
    ∀ c ∈ (Bridge.play { config } moves).roster, c.Idle := by
  have hvigilant := Bridge.vigilant_play config moves hrunning
  have hkept := Connection.wired_kept.play config moves
  have hapart := Bridge.Apart.play config moves
  rw [hrunning] at hkept
  obtain ⟨hconnects, hdisconnects, hwrites⟩ := hvigilant.queues_eq_nil h.wake
  intro c hc
  rcases hapart.find? hc with hfind | hun
  · exact (hvigilant.watched _ c hfind).idle (hkept c hc).1 (hkept c hc).2 hconnects hdisconnects
      hwrites (h.writable c hc)
  · exact .of_unreached hun

end VoiceBridge
