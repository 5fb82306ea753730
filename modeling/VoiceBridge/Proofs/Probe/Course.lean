import VoiceBridge.Probe.Run
import VoiceBridge.Proofs.Run.Announced
import VoiceBridge.Proofs.Run.Verdict

/-!
# The course of a probe

A probe shares its bridge with a loop, with drivers, with far ends and with whoever else uses the
service, and any of them may move between two things it does. `Next` has one constructor for each thing
the probe does and one for all that goes on beside it (`Beside`); it gives up waiting whenever it likes.
`Reaches` is what comes of any number of such steps.

`Fits` says what holds at each stage. A step keeps it (`Fits.next`), and so it holds wherever a probe gets
to (`Reaches.fits`). What the probe knows of the end it knows unless the driver was cut off.
-/

namespace VoiceBridge

/-- The text that announces the audio. -/
def ProbeSettings.announcement (settings : ProbeSettings) : String :=
  (settings.stream.startMessage settings.connection.sessionId).json

/-! ### What is read -/

namespace Journal

theorem mem_of_reportAll {events : List EventKind} {j : Journal} {o : TerminalOutcome}
    (h : (j.reportAll events).1 = some o) : ∃ e ∈ events, e.outcome? = some o := by
  induction events generalizing j with
  | nil => cases h
  | cons e rest ih =>
    change ((j.report e).2.reportAll rest).1.or e.outcome? = some o at h
    obtain hlater | ⟨-, he⟩ := Option.or_eq_some_iff.mp h
    · obtain ⟨e', he', ho⟩ := ih hlater
      exact ⟨e', List.mem_cons_of_mem _ he', ho⟩
    · exact ⟨e, List.mem_cons_self, he⟩

theorem mem_of_reportToEnd {events : List EventKind} {j : Journal} {o : TerminalOutcome}
    (h : (j.reportToEnd events).1.1 = some o) : ∃ e ∈ events, e.outcome? = some o := by
  induction events generalizing j with
  | nil => cases h
  | cons e rest ih =>
    have hreport : (j.report e).1 = e.outcome? := rfl
    unfold reportToEnd at h
    split at h
    · rename_i outcome j' heq
      rw [heq] at hreport
      cases h
      exact ⟨e, List.mem_cons_self, hreport.symm⟩
    · rename_i j' heq
      obtain ⟨e', he', ho⟩ := ih h
      exact ⟨e', List.mem_cons_of_mem _ he', ho⟩

end Journal

theorem Connection.Standing.first_event {stopped : Bool} {c : Connection} {e : EventKind}
    {rest : List EventKind} (h : c.Standing stopped) (hevents : c.events = e :: rest) :
    e = .connectSuccess ∨ ∃ reason, e = .connectFail reason := by
  obtain ⟨whole, hwhole, hprefix⟩ := h.story.delivery
  obtain ⟨e', rest', rfl, hfirst⟩ := hwhole.exists_first
  rw [hevents] at hprefix
  rw [(List.cons_prefix_cons.mp hprefix).1]
  exact hfirst

/-- The outcome on record is that of the one terminal event. -/
theorem Connection.Standing.terminal_event {stopped : Bool} {c : Connection} {o : TerminalOutcome}
    (h : c.Standing stopped) (ho : c.outcome = some o) :
    ∃ e, c.events.filter (·.isTerminal) = [e] ∧ e.outcome? = some o := by
  have hlast : ∀ {before : List EventKind} {e : EventKind}, Served before → e.outcome? = some o →
      c.events = before ++ [e] → c.events.filter (·.isTerminal) = [e] := by
    intro before e hserved he hevents
    rw [hevents, List.filter_append, hserved.filter_isTerminal]
    simp [EventKind.isTerminal, he]
  cases h with
  | @failed reason _ _ outcome events =>
    cases outcome.symm.trans ho
    exact ⟨.connectFail reason, by rw [events]; rfl, rfl⟩
  | dropped _ _ outcome events served =>
    cases outcome.symm.trans ho
    exact ⟨_, hlast served rfl events, rfl⟩
  | closed _ _ outcome events served =>
    cases outcome.symm.trans ho
    exact ⟨_, hlast served rfl events, rfl⟩
  | _ => simp_all

namespace ProbeRun

variable {σ : Type}

/-- How the latest request to be told of the end stands. -/
def lastWait? (r : ProbeRun σ) : Option Wait := r.connection?.bind (·.waits.getLast?)

/-- What the latest request was told. -/
def told? (r : ProbeRun σ) : Option TerminalOutcome :=
  match r.lastWait? with
  | some (.resolved o) => some o
  | _ => none

/-- Queue the announcement, if there is to be one. -/
def announce (settings : ProbeSettings) (r : ProbeRun σ) : Except RunError Unit × ProbeRun σ :=
  if settings.sendStart then r.call (.text settings.announcement) else (.ok (), r)

/-! ### Steps -/

/-- Where a probe stands in its work. -/
inductive Stage where
  /-- The audio is to be read. -/
  | start
  | announcing (frames : List Bytes)
  | connecting (frames : List Bytes)
  /-- The first event is waited for. -/
  | awaiting (frames : List Bytes)
  /-- Frames are left to be streamed. The outcome is the last one read. -/
  | streaming (outcome : Option TerminalOutcome) (frames : List Bytes)
  /-- The connection was found open for a frame. -/
  | writing (outcome : Option TerminalOutcome) (frame : Bytes) (rest : List Bytes)
  | reading (outcome : Option TerminalOutcome) (rest : List Bytes)
  /-- All was streamed, and nothing was read of an end. -/
  | streamed
  /-- The connection was found open at the end of the stream. -/
  | finishing
  /-- The far end is to close. -/
  | lingering
  | closing
  /-- The close was accepted. -/
  | closed
  /-- The end is waited for. The outcome is the last one read after the close. -/
  | joining (outcome : Option TerminalOutcome)
  | done (result : Except RunError TerminalOutcome)

namespace Stage

/-- Go on, unless something was refused. -/
def orDone (next : Stage) : Except RunError Unit → Stage
  | .ok () => next
  | .error e => .done (.error e)

/-- Go on, unless an outcome was read. -/
def orEnd (next : Stage) : Option TerminalOutcome → Stage
  | none => next
  | some o => .done (.ok o)

end Stage

/-- What can happen beside the probe: any move that is no call on its connection and does not stop the
service, and far ends that look at what they were sent. -/
inductive Beside : ProbeRun σ → ProbeRun σ → Prop
  | moved {r : ProbeRun σ} (m : Move) (spares : m.Spares r.id) :
      Beside r { r with bridge := r.bridge.move m }
  | collected {r : ProbeRun σ} (far : σ) : Beside r { r with bridge := r.bridge.collectAll, far }

/-- One step in the work of a probe, or something that happens beside it. -/
inductive Next (settings : ProbeSettings) (pcm : Option Bytes) :
    Stage → ProbeRun σ → Stage → ProbeRun σ → Prop
  | beside {s : Stage} {r r' : ProbeRun σ} (h : Beside r r') : Next settings pcm s r s r'
  | unreadable {r : ProbeRun σ} (missing : pcm = none) :
      Next settings pcm .start r (.done (.error (.noInput settings.input))) r
  | readable {r : ProbeRun σ} {bytes : Bytes} (found : pcm = some bytes) :
      Next settings pcm .start r (.announcing (settings.stream.cut bytes)) r
  | announced {r : ProbeRun σ} {frames : List Bytes} :
      Next settings pcm (.announcing frames) r ((Stage.connecting frames).orDone (r.announce settings).1)
        (r.announce settings).2
  | asked {r : ProbeRun σ} {frames : List Bytes} :
      Next settings pcm (.connecting frames) r ((Stage.awaiting frames).orDone (r.call .connect).1)
        (r.call .connect).2
  | unanswered {r : ProbeRun σ} {frames : List Bytes} :
      Next settings pcm (.awaiting frames) r (.done (.error (.fault .noAnswer))) r
  | answered {r : ProbeRun σ} {frames : List Bytes} {e : EventKind} {rest : List EventKind}
      (unread : r.unread = e :: rest) :
      Next settings pcm (.awaiting frames) r
        ((Stage.streaming none frames).orDone ((ProbeFault.ofFirst e).mapError .fault))
        { r with journal := (r.journal.report e).2, read := r.read + 1 }
  | found {r : ProbeRun σ} {outcome : Option TerminalOutcome} {frame : Bytes} {rest : List Bytes}
      (isOpen : r.isConnected = true) :
      Next settings pcm (.streaming outcome (frame :: rest)) r (.writing outcome frame rest) r
  | wrote {r : ProbeRun σ} {outcome : Option TerminalOutcome} {frame : Bytes} {rest : List Bytes} :
      Next settings pcm (.writing outcome frame rest) r (.reading outcome rest)
        (r.call (.audio [frame] none)).2
  | noted {r : ProbeRun σ} {outcome : Option TerminalOutcome} {rest : List Bytes} :
      Next settings pcm (.reading outcome rest) r (.streaming (r.readAll.1.or outcome) rest) r.readAll.2
  | streamed {r : ProbeRun σ} {outcome : Option TerminalOutcome} {frames : List Bytes}
      (enough : frames = [] ∨ r.isConnected = false) :
      Next settings pcm (.streaming outcome frames) r (Stage.streamed.orEnd outcome) r
  | looked {r : ProbeRun σ} :
      Next settings pcm .streamed r (if r.isConnected then .finishing else .lingering) r
  | finished {r : ProbeRun σ} :
      Next settings pcm .finishing r (Stage.lingering.orDone (r.call .finish).1) (r.call .finish).2
  | heard {r : ProbeRun σ} :
      Next settings pcm .lingering r (Stage.lingering.orEnd r.readToEnd.1) r.readToEnd.2
  | waited {r : ProbeRun σ} : Next settings pcm .lingering r .closing r
  | closed {r : ProbeRun σ} :
      Next settings pcm .closing r (Stage.closed.orDone (r.call .closeWithCompletion).1)
        (r.call .closeWithCompletion).2
  | drained {r : ProbeRun σ} : Next settings pcm .closed r (.joining r.readAll.1) r.readAll.2
  | joined {r : ProbeRun σ} {outcome : Option TerminalOutcome} (told : r.lastWait? ≠ some .pending) :
      Next settings pcm (.joining outcome) r (.done (.ok ((r.told?.or outcome).getD .dropped))) r

/-- Where a probe can get to. -/
inductive Reaches (settings : ProbeSettings) (pcm : Option Bytes) (r₀ : ProbeRun σ) :
    Stage → ProbeRun σ → Prop
  | start : Reaches settings pcm r₀ .start r₀
  | next {s s' : Stage} {r r' : ProbeRun σ} (h : Reaches settings pcm r₀ s r)
      (hnext : Next settings pcm s r s' r') : Reaches settings pcm r₀ s' r'

/-! ### What holds at a stage -/

namespace Stage

/-- What the probe knows of the end at a stage. -/
def Stands : Stage → Connection → Prop
  | start, c => c.Unclosed
  | announcing _, c => c.Unclosed
  | connecting _, c => c.Unclosed
  | awaiting _, c => c.Unclosed
  | streaming outcome _, c => (c.Unclosed ∧ c.events ≠ []) ∧ ∀ o, outcome = some o → c.outcome = some o
  | writing outcome _ _, c => (c.Unclosed ∧ c.events ≠ []) ∧ ∀ o, outcome = some o → c.outcome = some o
  | reading outcome _, c => (c.Unclosed ∧ c.events ≠ []) ∧ ∀ o, outcome = some o → c.outcome = some o
  | streamed, c => c.Unclosed ∧ c.events ≠ []
  | finishing, c => c.Unclosed ∧ c.events ≠ []
  | lingering, c => c.Unclosed ∧ c.events ≠ []
  | closing, c => c.Unclosed ∧ c.events ≠ []
  | closed, c => c.waits ≠ []
  | joining outcome, c => c.waits ≠ [] ∧ ∀ o, outcome = some o → c.outcome = some o
  | done (.ok o), c => ¬c.CutOff → c.outcome = some o
  | done (.error _), _ => True

/-- What was said of the announcement at a stage. -/
def Greets (text : String) : Stage → Connection → Prop
  | start, c => c.Unspoken
  | announcing _, c => c.Unspoken
  | done (.error _), c => c.Unspoken ∨ c.Announced text
  | _, c => c.Announced text

/-- Nothing was read yet. -/
def IsEarly : Stage → Prop
  | start | announcing _ | connecting _ | awaiting _ => True
  | _ => False

/-- The run does not end with an unexpected first event. -/
def IsExpected : Stage → Prop
  | done (.error (.fault (.unexpected _))) => False
  | _ => True

theorem keptAlone_stands (s : Stage) : Connection.KeptAlone (fun _ => True) s.Stands := by
  have hopen := Connection.keptAlone_unclosed.and Connection.keptAlone_events_ne_nil
  have hread (outcome : Option TerminalOutcome) : Connection.KeptAlone (fun _ => True)
      fun c => ∀ o, outcome = some o → c.outcome = some o :=
    .all fun o => .all fun _ => Connection.keptAlone_outcome o
  cases s with
  | start => exact Connection.keptAlone_unclosed
  | announcing => exact Connection.keptAlone_unclosed
  | connecting => exact Connection.keptAlone_unclosed
  | awaiting => exact Connection.keptAlone_unclosed
  | streaming outcome => exact hopen.and (hread outcome)
  | writing outcome => exact hopen.and (hread outcome)
  | reading outcome => exact hopen.and (hread outcome)
  | streamed => exact hopen
  | finishing => exact hopen
  | lingering => exact hopen
  | closing => exact hopen
  | closed => exact Connection.keptAlone_waits_ne_nil
  | joining outcome => exact Connection.keptAlone_waits_ne_nil.and (hread outcome)
  | done result =>
    cases result with
    | ok o => exact Connection.keptAlone_verdict o
    | error e => exact ⟨fun _ _ _ hc => hc, fun _ _ _ hc => hc, fun _ _ _ _ hc => hc⟩

theorem keptAlone_greets (text : String) (s : Stage) :
    Connection.KeptAlone (fun _ => True) (s.Greets text) := by
  have hannounced := Connection.keptAlone_announced text
  cases s with
  | start => exact Connection.keptAlone_unspoken
  | announcing => exact Connection.keptAlone_unspoken
  | done result =>
    cases result with
    | ok o => exact hannounced
    | error e => exact Connection.keptAlone_unspoken.or hannounced
  | _ => exact hannounced

end Stage

namespace Stage

variable {text : String} {c : Connection} {next : Stage}

theorem stands_orDone {result : Except RunError Unit} (h : result = .ok () → next.Stands c) :
    (next.orDone result).Stands c := by
  cases result with
  | ok => exact h rfl
  | error e => exact trivial

theorem greets_orDone {result : Except RunError Unit} (h : c.Announced text)
    (hnext : next.Greets text c) : (next.orDone result).Greets text c := by
  cases result with
  | ok => exact hnext
  | error e => exact .inr h

end Stage

variable {settings : ProbeSettings} {pcm : Option Bytes} {r r' r₀ : ProbeRun σ} {s s' : Stage}
  {c : Connection}

/-! ### Calls and reading -/

/-- What a call that yields nothing is answered, and what it leaves. -/
theorem call_spec (hc : r.connection? = some c) (hheld : c.held = true) (call : Call) :
    (r.call call).1 =
        (match (c.perform r.bridge.queues call).1 with
          | .refused e => .error (.refused e)
          | _ => .ok ()) ∧
      (r.call call).2.connection? = some (c.perform r.bridge.queues call).2.1 := by
  constructor
  · change (match (r.bridge.act (.call r.id call)).1 with
      | .refused e => Except.error (RunError.refused e)
      | _ => .ok ()) = _
    rw [Bridge.act_call_answer hc hheld call]
  · exact Bridge.find?_call_held hc hheld call

/-- A call is refused by the bridge or not at all. -/
theorem call_refused (r : ProbeRun σ) (call : Call) :
    (r.call call).1 = .ok () ∨ ∃ e, (r.call call).1 = .error (.refused e) := by
  change (match (r.bridge.act (.call r.id call)).1 with
    | .refused e => Except.error (RunError.refused e)
    | _ => .ok ()) = .ok () ∨ ∃ e, (match (r.bridge.act (.call r.id call)).1 with
    | .refused e => Except.error (RunError.refused e)
    | _ => .ok ()) = .error (.refused e)
  cases (r.bridge.act (.call r.id call)).1 with
  | refused e => exact .inr ⟨e, rfl⟩
  | _ => exact .inl rfl

theorem unread_eq (hc : r.connection? = some c) : r.unread = c.events.drop r.read := by
  simp [unread, hc]

/-- What was read of the end is on record. -/
theorem outcome_of_readAll {o : TerminalOutcome} (hc : r.connection? = some c)
    (hstanding : c.Standing false) (h : r.readAll.1 = some o) : c.outcome = some o := by
  have hread : (r.journal.reportAll r.unread).1 = some o := h
  obtain ⟨e, he, ho⟩ := Journal.mem_of_reportAll hread
  rw [unread_eq hc] at he
  exact (hstanding.outcome_eq_some_iff o).mpr ⟨e, List.mem_of_mem_drop he, ho⟩

theorem outcome_of_readToEnd {o : TerminalOutcome} (hc : r.connection? = some c)
    (hstanding : c.Standing false) (h : r.readToEnd.1 = some o) : c.outcome = some o := by
  have hread : (r.journal.reportToEnd r.unread).1.1 = some o := h
  obtain ⟨e, he, ho⟩ := Journal.mem_of_reportToEnd hread
  rw [unread_eq hc] at he
  exact (hstanding.outcome_eq_some_iff o).mpr ⟨e, List.mem_of_mem_drop he, ho⟩

/-! ### The invariant -/

/-- What holds at every stage of a course. -/
structure Fits (settings : ProbeSettings) (s : Stage) (r : ProbeRun σ) : Prop where
  tended : r.bridge.Tended
  stands : ∃ c, r.connection? = some c ∧ c.config = settings.connection ∧ c.Attended ∧ s.Stands c ∧
    (settings.sendStart = true → s.Greets settings.announcement c)
  early : s.IsEarly → r.read = 0
  expected : s.IsExpected

theorem Beside.tended (h : Beside r r') (hr : r.bridge.Tended) : r'.bridge.Tended := by
  cases h with
  | moved m spares => exact hr.move spares.1
  | collected => exact hr.collectAll

theorem Fits.beside (h : Fits settings s r) (hbeside : Beside r r') : Fits settings s r' := by
  obtain ⟨c, hc, hsame, hattended, hstands, hgreets⟩ := h.stands
  have hkept := (Connection.keptAlone_config settings.connection).and
    (Connection.keptAlone_attended.and ((Stage.keptAlone_stands s).and
      (.all fun _ : settings.sendStart = true => Stage.keptAlone_greets settings.announcement s)))
  refine ⟨hbeside.tended h.tended, ?_, ?_, h.expected⟩
  · cases hbeside with
    | moved m spares =>
      exact hkept.move h.tended trivial spares hc ⟨hsame, hattended, hstands, hgreets⟩
    | collected far => exact hkept.collectAll hc ⟨hsame, hattended, hstands, hgreets⟩
  · cases hbeside <;> exact h.early

/-- The probe goes on to a stage without touching the connection. -/
theorem Fits.goesOn (h : Fits settings s r) (hbridge : r'.bridge = r.bridge) (hid : r'.id = r.id)
    (hnext : ∀ c, r.connection? = some c → c.Attended → c.Standing false → s.Stands c →
      (settings.sendStart = true → s.Greets settings.announcement c) →
      s'.Stands c ∧ (settings.sendStart = true → s'.Greets settings.announcement c))
    (hearly : s'.IsEarly → r'.read = 0) (hexpected : s'.IsExpected) :
    Fits settings s' r' := by
  obtain ⟨c, hc, hsame, hattended, hstands, hgreets⟩ := h.stands
  obtain ⟨hstands', hgreets'⟩ := hnext c hc hattended (h.tended.standing hc) hstands hgreets
  refine ⟨hbridge ▸ h.tended, ⟨c, ?_, hsame, hattended, hstands', hgreets'⟩, hearly, hexpected⟩
  rw [connection?, hbridge, hid]
  exact hc

/-- The probe goes on to a stage with a call on its connection. -/
theorem Fits.calls (h : Fits settings s r) {call : Call} (hcall : call ≠ .drop)
    (hnext : ∀ c, r.connection? = some c → c.Attended → s.Stands c →
      (settings.sendStart = true → s.Greets settings.announcement c) →
      s'.Stands (c.perform r.bridge.queues call).2.1 ∧
        (settings.sendStart = true →
          s'.Greets settings.announcement (c.perform r.bridge.queues call).2.1))
    (hearly : s'.IsEarly → r.read = 0) (hexpected : s'.IsExpected) :
    Fits settings s' (r.call call).2 := by
  obtain ⟨c, hc, hsame, hattended, hstands, hgreets⟩ := h.stands
  have hframe := Connection.CallFrame.perform c r.bridge.queues call
  exact ⟨h.tended.call r.id call, ⟨_, (call_spec hc hattended.held call).2, hframe.config.trans hsame,
    hattended.perform hcall, hnext c hc hattended hstands hgreets⟩, hearly, hexpected⟩

/-- A call that may be refused never ends in an unexpected event. -/
theorem isExpected_orDone {next : Stage} {result : Except RunError Unit}
    (h : result = .ok () ∨ ∃ e, result = .error (.refused e)) (hnext : next.IsExpected) :
    (next.orDone result).IsExpected := by
  obtain rfl | ⟨e, rfl⟩ := h
  · exact hnext
  · trivial

theorem isEarly_orDone {next : Stage} {result : Except RunError Unit}
    (h : (next.orDone result).IsEarly) : next.IsEarly := by
  cases result with
  | ok => exact h
  | error e => exact h.elim

/-- The probe makes a call after its announcement, and goes on unless it is refused. -/
theorem Fits.asks {next : Stage} (h : Fits settings s r) {call : Call} (hcall : call ≠ .drop)
    (hbefore : ∀ c, s.Greets settings.announcement c → c.Announced settings.announcement)
    (hafter : ∀ c, c.Announced settings.announcement → next.Greets settings.announcement c)
    (hnext : ∀ c, r.connection? = some c → c.Attended → s.Stands c → (r.call call).1 = .ok () →
      next.Stands (c.perform r.bridge.queues call).2.1)
    (hearly : next.IsEarly → r.read = 0) (hexpected : next.IsExpected) :
    Fits settings (next.orDone (r.call call).1) (r.call call).2 := by
  refine h.calls hcall ?_ (fun h => hearly (isEarly_orDone h))
    (isExpected_orDone (call_refused r call) hexpected)
  intro c hc hattended hstands hgreets
  refine ⟨Stage.stands_orDone (hnext c hc hattended hstands), fun hsend => ?_⟩
  have hannounced := (hbefore c (hgreets hsend)).perform h.tended.running call
  exact Stage.greets_orDone hannounced (hafter _ hannounced)

theorem Fits.announce {frames : List Bytes} (h : Fits settings (.announcing frames) r) :
    Fits settings ((Stage.connecting frames).orDone (r.announce settings).1)
      (r.announce settings).2 := by
  have hread : r.read = 0 := h.early trivial
  cases hsend : settings.sendStart with
  | false =>
    simp only [ProbeRun.announce, hsend, Bool.false_eq_true, if_false]
    refine h.goesOn rfl rfl ?_ (fun _ => hread) trivial
    intro c _ _ _ hstands _
    exact ⟨hstands, fun hsent => by rw [hsend] at hsent; cases hsent⟩
  | true =>
    simp only [ProbeRun.announce, hsend, if_true]
    refine h.calls (by simp) ?_ (fun _ => hread) (isExpected_orDone (call_refused r _) trivial)
    intro c hc hattended hstands hgreets
    have hanswer := (call_spec hc hattended.held (.text settings.announcement)).1
    refine ⟨Stage.stands_orDone fun _ => hstands.perform rfl, fun _ => ?_⟩
    obtain ⟨hok, hannounced⟩ | ⟨⟨e, herror⟩, hunspoken⟩ :=
      (hgreets hsend).queueText settings.announcement h.tended.running
    · exact Stage.greets_orDone hannounced hannounced
    · have hrefused : (r.call (.text settings.announcement)).1 = .error (.refused e) := by
        rw [hanswer]
        simp [Connection.perform, Answer.ofCall, herror, Answer.ofUnit]
      rw [hrefused]
      exact .inl hunspoken

theorem Fits.answered {frames : List Bytes} {e : EventKind} {rest : List EventKind}
    (h : Fits settings (.awaiting frames) r) (hunread : r.unread = e :: rest) :
    Fits settings ((Stage.streaming none frames).orDone ((ProbeFault.ofFirst e).mapError .fault))
      { r with journal := (r.journal.report e).2, read := r.read + 1 } := by
  have hevents : ∀ c, r.connection? = some c → c.events = e :: rest := by
    intro c hc
    rw [unread_eq hc, h.early trivial, List.drop_zero] at hunread
    exact hunread
  have hfirst : e = .connectSuccess ∨ ∃ reason, e = .connectFail reason := by
    obtain ⟨c, hc, -⟩ := h.stands
    exact (h.tended.standing hc).first_event (hevents c hc)
  refine h.goesOn rfl rfl ?_ (fun hearly => (isEarly_orDone hearly).elim) ?_
  · intro c hc _ _ hstands hgreets
    refine ⟨Stage.stands_orDone fun _ => ⟨⟨hstands, by simp [hevents c hc]⟩, by simp⟩, fun hsend => ?_⟩
    exact Stage.greets_orDone (hgreets hsend) (hgreets hsend)
  · obtain rfl | ⟨reason, rfl⟩ := hfirst <;> exact trivial

theorem Fits.close (h : Fits settings .closing r) :
    Fits settings (Stage.closed.orDone (r.call .closeWithCompletion).1)
      (r.call .closeWithCompletion).2 := by
  refine h.asks (by simp) (fun _ hc => hc) (fun _ hc => hc) ?_ False.elim trivial
  intro c hc hattended _ hok
  apply Connection.waits_closeWithCompletion
  rw [(call_spec hc hattended.held .closeWithCompletion).1] at hok
  cases hresult : (c.closeWithCompletion r.bridge.queues).1 with
  | ok => rfl
  | error e => simp [Connection.perform, Answer.ofCall, hresult, Answer.ofUnit] at hok

/-- Who waits and was told can report nothing but the outcome on record. -/
theorem told_of_attended (hc : r.connection? = some c) (hattended : c.Attended) (hwhole : ¬c.CutOff)
    (hwaits : c.waits ≠ []) (htold : r.lastWait? ≠ some .pending) :
    ∃ o, r.told? = some o ∧ c.outcome = some o := by
  have hlast : r.lastWait? = c.waits.getLast? := by simp [lastWait?, hc]
  obtain ⟨o, ho, houtcome⟩ := hattended.last_told hwhole hwaits (hlast ▸ htold)
  exact ⟨o, by rw [told?, hlast, ho], houtcome⟩

theorem Fits.join {outcome : Option TerminalOutcome} (h : Fits settings (.joining outcome) r)
    (htold : r.lastWait? ≠ some .pending) :
    Fits settings (.done (.ok ((r.told?.or outcome).getD .dropped))) r := by
  refine h.goesOn rfl rfl ?_ False.elim trivial
  intro c hc hattended _ hstands hgreets
  refine ⟨fun hwhole => ?_, hgreets⟩
  obtain ⟨o, ho, houtcome⟩ := told_of_attended hc hattended hwhole hstands.1 htold
  rw [ho]
  exact houtcome

/-- A step keeps what holds of a course. -/
theorem Fits.next (h : Fits settings s r) (hnext : Next settings pcm s r s' r') :
    Fits settings s' r' := by
  have hopen {call : Call} (hclose : call.asksToClose = false) {c : Connection}
      (hc : c.Unclosed ∧ c.events ≠ []) :
      (c.perform r.bridge.queues call).2.1.Unclosed ∧ (c.perform r.bridge.queues call).2.1.events ≠ [] :=
    ⟨hc.1.perform hclose, (Connection.CallFrame.perform c r.bridge.queues call).events ▸ hc.2⟩
  have hrunning := h.tended.running
  cases hnext with
  | beside hbeside => exact h.beside hbeside
  | unreadable =>
    exact h.goesOn rfl rfl (fun _ _ _ _ _ hgreets => ⟨trivial, fun hsend => .inl (hgreets hsend)⟩)
      False.elim trivial
  | readable =>
    exact h.goesOn rfl rfl (fun _ _ _ _ hstands hgreets => ⟨hstands, hgreets⟩)
      (fun _ => h.early trivial) trivial
  | announced => exact h.announce
  | asked =>
    exact h.asks (by simp) (fun _ hc => hc) (fun _ hc => hc)
      (fun _ _ _ hstands _ => hstands.perform rfl) (fun _ => h.early trivial) trivial
  | unanswered =>
    exact h.goesOn rfl rfl (fun _ _ _ _ _ hgreets => ⟨trivial, fun hsend => .inr (hgreets hsend)⟩)
      False.elim trivial
  | answered hunread => exact h.answered hunread
  | found =>
    exact h.goesOn rfl rfl (fun _ _ _ _ hstands hgreets => ⟨hstands, hgreets⟩) False.elim trivial
  | wrote =>
    refine h.calls (by simp) ?_ False.elim trivial
    intro c _ _ hstands hgreets
    refine ⟨⟨hopen rfl hstands.1, fun o ho => ?_⟩, fun hsend => (hgreets hsend).perform hrunning _⟩
    exact (Connection.CallFrame.perform c r.bridge.queues _).outcome.trans (hstands.2 o ho)
  | noted =>
    refine h.goesOn rfl rfl ?_ False.elim trivial
    intro c hc _ hstanding hstands hgreets
    refine ⟨⟨hstands.1, fun o ho => ?_⟩, hgreets⟩
    obtain hlater | ⟨-, hbefore⟩ := Option.or_eq_some_iff.mp ho
    · exact outcome_of_readAll hc hstanding hlater
    · exact hstands.2 o hbefore
  | @streamed _ outcome =>
    cases outcome with
    | none =>
      exact h.goesOn rfl rfl (fun _ _ _ _ hstands hgreets => ⟨hstands.1, hgreets⟩) False.elim trivial
    | some o =>
      exact h.goesOn rfl rfl (fun _ _ _ _ hstands hgreets => ⟨fun _ => hstands.2 o rfl, hgreets⟩)
        False.elim trivial
  | looked =>
    cases r.isConnected <;>
      exact h.goesOn rfl rfl (fun _ _ _ _ hstands hgreets => ⟨hstands, hgreets⟩) False.elim trivial
  | finished =>
    exact h.asks (by simp) (fun _ hc => hc) (fun _ hc => hc)
      (fun _ _ _ hstands _ => hopen rfl hstands) False.elim trivial
  | heard =>
    cases hread : r.readToEnd.1 with
    | none =>
      exact h.goesOn rfl rfl (fun _ _ _ _ hstands hgreets => ⟨hstands, hgreets⟩) False.elim trivial
    | some o =>
      exact h.goesOn rfl rfl
        (fun _ hc _ hstanding _ hgreets => ⟨fun _ => outcome_of_readToEnd hc hstanding hread, hgreets⟩)
        False.elim trivial
  | waited =>
    exact h.goesOn rfl rfl (fun _ _ _ _ hstands hgreets => ⟨hstands, hgreets⟩) False.elim trivial
  | closed => exact h.close
  | drained =>
    refine h.goesOn rfl rfl ?_ False.elim trivial
    intro c hc _ hstanding hstands hgreets
    exact ⟨⟨hstands, fun o ho => outcome_of_readAll hc hstanding ho⟩, hgreets⟩
  | joined told => exact h.join told

/-- What holds of a course holds wherever the probe gets to. -/
theorem Reaches.fits (h : Reaches settings pcm r₀ s r) (hstart : Fits settings .start r₀) :
    Fits settings s r := by
  induction h with
  | start => exact hstart
  | next _ hnext ih => exact ih.next hnext

end ProbeRun

end VoiceBridge
