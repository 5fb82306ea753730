import VoiceBridge.Proofs.Run.Agreement
import VoiceBridge.Proofs.Run.Flush

/-!
# A connection left alone

Between two calls on a connection the bridge goes on: its loop and its drivers move in any order, far ends
answer, time passes, other connections come and are called. All of that comes down to three things that
can happen to the connection (`LeftAlone`): its driver takes a step, its request to connect is taken up, or
it is given permits and arrivals.

`KeptAlone P` says that none of these breaks `P`, and then no move breaks it that neither is a call on the
name nor stops the service (`KeptAlone.move`), nor does settling (`KeptAlone.settle`).
-/

namespace VoiceBridge

/-- The move neither is a call on the name nor stops the service. -/
def Move.Spares (id : String) (m : Move) : Prop :=
  m.action? ≠ some .shutdown ∧ ∀ call, m.action? ≠ some (.call id call)

theorem Move.spares_of_isOwn {m : Move} (h : m.isOwn = true) (id : String) : m.Spares id := by
  cases m with
  | loop | errand => exact ⟨nofun, fun _ => nofun⟩
  | _ => cases h

namespace Connection

variable {c c' : Connection}

/-- The connection with other permits, other arrivals that wait and another mark of its far end. -/
def stirred (c : Connection) (writable writeQueued : Bool) (inbound : List Arrival) (collected : Nat) :
    Connection :=
  { c with writable, writeQueued, wire := { c.wire with inbound, collected } }

/-- What can happen to a connection on which nobody calls. -/
inductive LeftAlone (b : Bridge) (c : Connection) : Connection → Prop
  | driven {c' : Connection} (progress : Progress b.context c c') : LeftAlone b c c'
  | dialled (writable writeQueued : Bool) (idle : c.state = .idle) :
      LeftAlone b c { b.dialled c with writable, writeQueued }
  | stirred (writable writeQueued : Bool) (inbound : List Arrival) (collected : Nat) :
      LeftAlone b c (c.stirred writable writeQueued inbound collected)

theorem LeftAlone.refl (b : Bridge) (c : Connection) : LeftAlone b c c :=
  .stirred c.writable c.writeQueued c.wire.inbound c.wire.collected

theorem LeftAlone.of_change {b : Bridge} {m : Move} (hm : m.Spares c.id) (h : Bridge.Change b c m c') :
    LeftAlone b c c' := by
  cases h with
  | call => exact absurd rfl (hm.2 _)
  | unheld => exact absurd rfl (hm.2 _)
  | @far call =>
    obtain ⟨inbound, collected, hfar⟩ := c.farCall_eq call
    rw [hfar]
    exact .stirred c.writable c.writeQueued inbound collected
  | takenUp =>
    obtain ⟨_, writable, writeQueued, heq, -, rfl | ⟨-, hidle, rfl⟩⟩ := Bridge.takenUp_cases b c
    · rw [heq]
      exact .stirred writable writeQueued _ _
    · rw [heq]
      exact .dialled writable writeQueued hidle
  | progress _ progress => exact .driven progress
  | cut => exact absurd rfl hm.1
  | other | spared => exact .refl b c

theorem LeftAlone.config {b : Bridge} (h : LeftAlone b c c') : c'.config = c.config := by
  cases h with
  | driven progress => exact progress.config
  | dialled | stirred => rfl

/-- Nothing that happens to a connection left alone breaks `P`, as long as the driver sees only what `A`
allows. -/
structure KeptAlone (A : LoopContext → Prop) (P : Connection → Prop) : Prop where
  progress : ∀ {ctx c c'}, A ctx → c.Standing false → Progress ctx c c' → P c → P c'
  dialled : ∀ {c} (b : Bridge), c.Standing false → c.state = .idle → P c → P (b.dialled c)
  stirred : ∀ {c} (writable writeQueued : Bool) (inbound : List Arrival) (collected : Nat), P c →
    P (c.stirred writable writeQueued inbound collected)

namespace KeptAlone

variable {A : LoopContext → Prop} {P Q : Connection → Prop}

theorem and (hP : KeptAlone A P) (hQ : KeptAlone A Q) : KeptAlone A fun c => P c ∧ Q c where
  progress hA hstanding h hc := ⟨hP.progress hA hstanding h hc.1, hQ.progress hA hstanding h hc.2⟩
  dialled b hstanding hidle hc := ⟨hP.dialled b hstanding hidle hc.1, hQ.dialled b hstanding hidle hc.2⟩
  stirred writable writeQueued inbound collected hc :=
    ⟨hP.stirred writable writeQueued inbound collected hc.1,
      hQ.stirred writable writeQueued inbound collected hc.2⟩

theorem or (hP : KeptAlone A P) (hQ : KeptAlone A Q) : KeptAlone A fun c => P c ∨ Q c where
  progress hA hstanding h := Or.imp (hP.progress hA hstanding h) (hQ.progress hA hstanding h)
  dialled b hstanding hidle := Or.imp (hP.dialled b hstanding hidle) (hQ.dialled b hstanding hidle)
  stirred writable writeQueued inbound collected :=
    Or.imp (hP.stirred writable writeQueued inbound collected)
      (hQ.stirred writable writeQueued inbound collected)

theorem all {ι : Sort*} {P : ι → Connection → Prop} (hP : ∀ i, KeptAlone A (P i)) :
    KeptAlone A fun c => ∀ i, P i c where
  progress hA hstanding h hc i := (hP i).progress hA hstanding h (hc i)
  dialled b hstanding hidle hc i := (hP i).dialled b hstanding hidle (hc i)
  stirred writable writeQueued inbound collected hc i :=
    (hP i).stirred writable writeQueued inbound collected (hc i)

theorem leftAlone {b : Bridge} (hP : KeptAlone A P) (hA : A b.context) (hstanding : c.Standing false)
    (h : LeftAlone b c c') (hc : P c) : P c' := by
  cases h with
  | driven progress => exact hP.progress hA hstanding progress hc
  | dialled writable writeQueued idle =>
    have hdialled := hP.dialled b hstanding idle hc
    exact hP.stirred writable writeQueued (b.dialled c).wire.inbound (b.dialled c).wire.collected
      hdialled
  | stirred writable writeQueued inbound collected =>
    exact hP.stirred writable writeQueued inbound collected hc

end KeptAlone

theorem keptAlone_config (config : ConnectionConfig) : KeptAlone A fun c => c.config = config where
  progress _ _ h hc := h.config.trans hc
  dialled _ _ _ hc := hc
  stirred _ _ _ _ hc := hc

end Connection

namespace Bridge

variable {b : Bridge} {id : String} {c : Connection} {m : Move}

/-- A running bridge whose connections are in good order, whose requests are looked after and whose drivers
keep time. -/
structure Tended (b : Bridge) : Prop where
  running : b.queues.stopped = false
  kept : ∀ c ∈ b.roster, c.Standing false ∧ c.Wired
  vigilant : b.Vigilant
  timely : ∀ id c, b.find? id = some c → c.KeepsTime b

namespace Tended

theorem standing (h : b.Tended) (hc : b.find? id = some c) : c.Standing false :=
  (h.kept c (List.mem_of_find?_eq_some hc)).1

/-- As long as the clock reaches, no driver has been cut off. -/
theorem not_cutOff (h : b.Tended) (hc : b.find? id = some c) (hreach : b.ClockReaches c.config.profile) :
    ¬c.CutOff := (h.timely id c hc).intact h.running hreach

theorem new (config : ServiceConfig) (network : Network) : ({ config, network } : Bridge).Tended := by
  constructor
  · rfl
  · exact fun _ hc => (List.not_mem_nil hc).elim
  · constructor
    · intro hne
      simp at hne
    · exact fun _ hid => (List.not_mem_nil hid).elim
    · intro id c hc
      simp [find?] at hc
  · intro id c hc
    simp [find?] at hc

theorem move (h : b.Tended) (hm : m.action? ≠ some .shutdown) : (b.move m).Tended := by
  have hrunning : (b.move m).queues.stopped = false := by
    refine (stopped_move_of_ne ?_).trans h.running
    rintro rfl
    exact absurd rfl hm
  have hkept : ∀ c ∈ b.roster, c.Standing b.queues.stopped ∧ c.Wired := h.running ▸ h.kept
  constructor
  · exact hrunning
  · have hafter := wired_move hkept m
    rwa [hrunning] at hafter
  · exact h.vigilant.move (fun c hc => (hkept c hc).1) hrunning
  · exact keepsTime_of_move hkept h.timely m

/-- A move that spares the name leaves its connection alone. -/
theorem find?_move (h : b.Tended) (hc : b.find? id = some c) (hm : m.Spares id) :
    ∃ c', (b.move m).find? id = some c' ∧ c.LeftAlone b c' := by
  have hkept : ∀ c ∈ b.roster, c.Standing b.queues.stopped :=
    fun c hc => h.running ▸ (h.kept c hc).1
  obtain ⟨c', hc', hchange⟩ := find?_move_of_some hkept hc m
  rw [← id_of_find? hc] at hm
  exact ⟨c', hc', .of_change hm hchange⟩

/-- A call leaves the bridge tended. -/
theorem call (h : b.Tended) (id : String) (call : Call) : (b.act (.call id call)).2.Tended :=
  h.move (m := (.act (.call id call))) nofun

/-- Whatever every move keeps that goes on by itself is kept when the bridge settles. -/
theorem settle_of_own {Q : Bridge → Prop} (h : b.Tended)
    (hQ : ∀ {b : Bridge} {m : Move}, m.isOwn = true → b.Tended → Q b → Q (b.move m))
    (hb : Q b) : Q b.settle := by
  obtain ⟨later, hown, -, hsettle⟩ := exists_own_settle b
  rw [hsettle]
  clear hsettle
  induction later generalizing b with
  | nil => exact hb
  | cons m later ih =>
    have hm := hown m List.mem_cons_self
    have hspares := Move.spares_of_isOwn hm ""
    exact ih (h.move hspares.1) (hQ hm h hb) fun m hm => hown m (List.mem_cons_of_mem _ hm)

theorem settle (h : b.Tended) : b.settle.Tended :=
  h.settle_of_own (fun hm h _ => h.move (Move.spares_of_isOwn hm "").1) h

theorem context_settle (h : b.Tended) : b.settle.context = b.context :=
  h.settle_of_own (Q := fun b' => b'.context = b.context)
    (fun {b' _} hm _ hb => (context_move hm b').trans hb) rfl

end Tended

/-! ### Far ends that look -/

theorem find?_collectAll (b : Bridge) (id : String) :
    b.collectAll.find? id =
      (b.find? id).map fun c => { c with wire := c.wire.collect c.wire.sent.length } := by
  simp only [find?, collectAll, List.find?_map]
  rfl

theorem Tended.collectAll (h : b.Tended) : b.collectAll.Tended := by
  constructor
  · exact h.running
  · intro c' hc'
    obtain ⟨c, hc, rfl⟩ := List.mem_map.mp hc'
    obtain ⟨hstanding, hwired⟩ := h.kept c hc
    exact ⟨hstanding.congr rfl rfl rfl rfl,
      ⟨hwired.audio, hwired.outbox, hwired.closeSent, hwired.closing, hwired.unopened⟩⟩
  · constructor
    · exact h.vigilant.heard
    · intro id hid hnone
      rw [find?_collectAll, Option.map_eq_none_iff] at hnone
      exact h.vigilant.named id hid hnone
    · intro id c' hc'
      rw [find?_collectAll, Option.map_eq_some_iff] at hc'
      obtain ⟨c, hc, rfl⟩ := hc'
      obtain ⟨hrunning, htracked, hprompt⟩ := h.vigilant.watched id c hc
      exact ⟨hrunning, htracked.congr rfl rfl rfl rfl rfl rfl rfl, hprompt⟩
  · intro id c' hc'
    rw [find?_collectAll, Option.map_eq_some_iff] at hc'
    obtain ⟨c, hc, rfl⟩ := hc'
    obtain ⟨hpunctual, hwhole⟩ := h.timely id c hc
    exact ⟨fun s hp => (hpunctual s hp).later rfl (Nat.le_refl _) rfl,
      fun hrunning hreach hcut => hwhole hrunning (hreach.before rfl (Nat.le_refl _))
        ⟨hcut.phase, hcut.outcome⟩⟩

end Bridge

namespace Connection.KeptAlone

variable {b : Bridge} {id : String} {c : Connection} {m : Move} {A : LoopContext → Prop}
  {P : Connection → Prop}

theorem move (hP : KeptAlone A P) (h : b.Tended) (hA : A b.context) (hm : m.Spares id)
    (hc : b.find? id = some c) (hp : P c) : ∃ c', (b.move m).find? id = some c' ∧ P c' := by
  obtain ⟨c', hc', halone⟩ := h.find?_move hc hm
  exact ⟨c', hc', hP.leftAlone hA (h.standing hc) halone hp⟩

theorem collectAll (hP : KeptAlone A P) (hc : b.find? id = some c) (hp : P c) :
    ∃ c', b.collectAll.find? id = some c' ∧ P c' := by
  refine ⟨_, by rw [Bridge.find?_collectAll, hc]; rfl, ?_⟩
  exact hP.stirred c.writable c.writeQueued c.wire.inbound _ hp

/-- What goes on by itself does not change what a driver sees. -/
theorem settle (hP : KeptAlone A P) (h : b.Tended) (hA : A b.context) (hc : b.find? id = some c)
    (hp : P c) : ∃ c', b.settle.find? id = some c' ∧ P c' := by
  have hkept : b.settle.context = b.context ∧ ∃ c', b.settle.find? id = some c' ∧ P c' := by
    apply h.settle_of_own (Q := fun b' => b'.context = b.context ∧ ∃ c', b'.find? id = some c' ∧ P c')
    · rintro b' m hm h' ⟨hcontext, c', hc', hp'⟩
      have hA' : A b'.context := hcontext ▸ hA
      exact ⟨(Bridge.context_move hm b').trans hcontext,
        hP.move h' hA' (Move.spares_of_isOwn hm id) hc' hp'⟩
    · exact ⟨rfl, c, hc, hp⟩
  exact hkept.2

end Connection.KeptAlone

/-! ### What stays -/

namespace Connection

variable {ctx : LoopContext} {c c' : Connection}

theorem Progress.held (h : Progress ctx c c') : c'.held = c.held := by
  cases h with
  | sent log phase attempt => cases attempt <;> rfl
  | lost log phase attempt => cases attempt <;> rfl
  | _ => rfl

theorem Progress.events (h : Progress ctx c c') : c.events <+: c'.events := by
  cases h with
  | sent log phase attempt =>
    cases attempt with
    | ping => exact List.prefix_rfl
    | _ => exact List.prefix_append _ _
  | lost log phase attempt =>
    cases attempt with
    | ping => exact List.prefix_append _ _
    | _ => exact (List.prefix_append _ _).trans (List.prefix_append _ _)
  | spent | discarded | heard | broken => exact List.prefix_rfl
  | _ => exact List.prefix_append _ _

/-- The handle is held, and unless the driver was cut off, whoever waits for the end has been told what is
recorded of it. -/
structure Attended (c : Connection) : Prop where
  held : c.held = true
  told : ¬c.CutOff → ∀ w ∈ c.waits, w = c.outcome.elim .pending .resolved

theorem Attended.congr (h : c.Attended) (hheld : c'.held = true) (hwaits : c'.waits = c.waits)
    (hp : c'.phase = c.phase) (ho : c'.outcome = c.outcome) : c'.Attended where
  held := hheld
  told hwhole := by
    rw [hwaits, ho]
    exact h.told fun hcut => hwhole ⟨hp.trans hcut.phase, ho.trans hcut.outcome⟩

theorem not_cutOff_of_isDriven (h : c.isDriven = true) : ¬c.CutOff :=
  fun hcut => by simp [isDriven, hcut.phase] at h

theorem keptAlone_attended : KeptAlone (fun _ => True) Attended where
  progress _ hstanding h hc := by
    have hnone := hstanding.outcome_of_isDriven h.isDriven
    have htold := hc.told (not_cutOff_of_isDriven h.isDriven)
    refine ⟨h.held.trans hc.held, fun hwhole => ?_⟩
    obtain ⟨hwaits, houtcome, -⟩ | ⟨o, hwaits, houtcome⟩ | rfl := h.waits
    · rw [hwaits, houtcome]
      exact htold
    · intro w hw
      rw [hwaits, resolveWaits, List.mem_map] at hw
      obtain ⟨w₀, hw₀, rfl⟩ := hw
      have hpending : w₀ = .pending := by
        rw [htold w₀ hw₀, hnone]
        rfl
      rw [houtcome, if_pos hpending]
      rfl
    · exact absurd ⟨rfl, hnone⟩ hwhole
  dialled _ hstanding hidle hc := by
    refine ⟨hc.held, fun _ => hc.told fun hcut => ?_⟩
    have hphase := hcut.phase
    rw [(hstanding.of_idle hidle).1] at hphase
    cases hphase
  stirred _ _ _ _ hc := hc.congr hc.held rfl rfl rfl

theorem keptAlone_waits_ne_nil : KeptAlone (fun _ => True) fun c => c.waits ≠ [] where
  progress _ _ h hc := by
    obtain ⟨hwaits, -⟩ | ⟨o, hwaits, -⟩ | rfl := h.waits
    · rwa [hwaits]
    · rw [hwaits]
      simpa [resolveWaits] using hc
    · simpa [driverGone, abandonWaits] using hc
  dialled _ _ _ hc := hc
  stirred _ _ _ _ hc := hc

theorem keptAlone_outcome (o : TerminalOutcome) :
    KeptAlone (fun _ => True) fun c => c.outcome = some o where
  progress _ hstanding h hc := by
    rw [hstanding.outcome_of_isDriven h.isDriven] at hc
    cases hc
  dialled _ hstanding hidle hc := by
    rw [(hstanding.of_idle hidle).2.1] at hc
    cases hc
  stirred _ _ _ _ hc := hc

/-- Once there is a verdict, it stays. -/
theorem keptAlone_verdict (o : TerminalOutcome) :
    KeptAlone (fun _ => True) fun c => ¬c.CutOff → c.outcome = some o where
  progress _ hstanding h hc := by
    have hoc := hc (not_cutOff_of_isDriven h.isDriven)
    rw [hstanding.outcome_of_isDriven h.isDriven] at hoc
    cases hoc
  dialled _ hstanding hidle hc := by
    obtain ⟨hphase, houtcome, -⟩ := hstanding.of_idle hidle
    have hoc := hc fun hcut => by cases hphase.symm.trans hcut.phase
    rw [houtcome] at hoc
    cases hoc
  stirred _ _ _ _ hc := fun hwhole => hc fun hcut => hwhole ⟨hcut.phase, hcut.outcome⟩

theorem keptAlone_events_ne_nil : KeptAlone (fun _ => True) fun c => c.events ≠ [] where
  progress _ _ h hc := by
    intro hnil
    have hprefix := h.events
    rw [hnil, List.prefix_nil] at hprefix
    exact hc hprefix
  dialled _ _ _ hc := hc
  stirred _ _ _ _ hc := hc

end Connection

end VoiceBridge
