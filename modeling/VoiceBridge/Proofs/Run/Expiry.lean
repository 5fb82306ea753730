import VoiceBridge.Proofs.Run.Announced
import VoiceBridge.Proofs.Run.AtRest
import VoiceBridge.Proofs.Run.Separate

/-!
# A close that is not answered in time

Once the bridge has settled, a connection that is closing has sent its close frame, and it does not stay
open beyond the deadline for the answer: from then on no ping is sent, so that each step of the driver
leaves less to do, and at rest behind the deadline the driver is over (`over_settle`).

Nothing is asked of the pings here. Even a service that asked for pings without a pause would not keep a
closing connection open.
-/

namespace VoiceBridge

namespace Connection

variable {ctx : LoopContext} {c c' : Connection} {limit : Nat}

/-- The connection is closing or closed. -/
def Going (c : Connection) : Prop := c.state = .disconnecting ∨ c.phase = .over

/-- A close frame that is out is to be answered by `limit`. -/
def DueBy (limit : Nat) (c : Connection) : Prop :=
  ∀ s, c.phase = .live s → s.closeSent = true →
    ∃ deadline, s.closeDeadline = some deadline ∧ deadline ≤ limit

/-- The close frame is out and to be answered by `limit`, or the driver is over. -/
def Leaving (limit : Nat) (c : Connection) : Prop :=
  c.phase = .over ∨ ∃ s deadline, c.phase = .live s ∧ s.closeSent = true ∧
    s.closeDeadline = some deadline ∧ deadline ≤ limit

/-- To close a connection that was opened, or failed to, leaves it going. No close frame is out yet. -/
theorem going_closeWithCompletion {q : Requests} (hstanding : c.Standing false) (hc : c.Unclosed)
    (hevents : c.events ≠ []) (limit : Nat) :
    (c.closeWithCompletion q).2.1.Going ∧ (c.closeWithCompletion q).2.1.DueBy limit := by
  have hframe := CallFrame.close c q
  have hover (phase : c.phase = .over) : (c.close q).2.1.Going ∧ (c.close q).2.1.DueBy limit := by
    rw [← hframe.phase] at phase
    exact ⟨.inr phase, fun s hp => by rw [phase] at hp; cases hp⟩
  have hclose : (c.close q).2.1.Going ∧ (c.close q).2.1.DueBy limit := by
    cases hstanding with
    | fresh _ _ _ events => exact absurd events hevents
    | dialling _ _ _ _ events => exact absurd events hevents
    | disconnecting _ _ state => exact absurd state hc.steady
    | failed phase | dropped phase | closed phase | cutLive phase => exact hover phase
    | cutDialling stopped => cases stopped
    | connected _ phase state _ _ closeSent =>
      constructor
      · left
        rw [close, state]
        dsimp only
        rw [beginDisconnect_eq state]
      · intro s hp hsent
        rw [hframe.phase, phase] at hp
        cases hp
        rw [closeSent] at hsent
        cases hsent
  obtain ⟨-, hafter⟩ | ⟨-, hafter⟩ := closeWithCompletion_cases c q <;> rw [hafter]
  · exact hclose
  · exact hclose

/-! ### What stays while the connection is left alone -/

theorem keptAlone_going : KeptAlone (fun _ => True) Going where
  progress {ctx c c'} _ hstanding h hc := by
    have hdriven := h.isDriven
    have hclosing : c.state = .disconnecting := by
      apply hc.resolve_right
      intro hover
      simp [isDriven, hover] at hdriven
    cases h with
    | opened log phase =>
      rw [hstanding.state_of_dialling phase] at hclosing
      cases hclosing
    | sent log phase attempt => cases attempt <;> exact .inl hclosing
    | refused | lost | ended | expired | broken => exact .inr rfl
    | _ => exact .inl hclosing
  dialled b hstanding hidle hc := by
    obtain hclosing | hover := hc
    · rw [hidle] at hclosing
      cases hclosing
    · rw [(hstanding.of_idle hidle).1] at hover
      cases hover
  stirred _ _ _ _ hc := hc

theorem keptAlone_dueBy (limit : Nat) :
    KeptAlone (fun ctx => ctx.now + ctx.config.closeTimeout.nanos ≤ limit) (DueBy limit) where
  progress {ctx c c'} hlimit _ h hc := by
    intro s' hp' hsent
    cases h with
    | opened =>
      cases hp'
      cases hsent
    | spent => exact hc s' hp' hsent
    | quiet => exact hc s' hp' hsent
    | sent log phase attempt =>
      cases attempt with
      | text => exact hc s' hp' hsent
      | audio => exact hc s' hp' hsent
      | close =>
        cases hp'
        exact ⟨_, rfl, hlimit⟩
      | ping closeSent =>
        cases hp'
        rw [closeSent] at hsent
        cases hsent
    | @discarded s _ _ phase =>
      cases hp'
      exact hc s phase hsent
    | @taken s _ _ log phase =>
      cases hp'
      exact hc s phase hsent
    | @heard s _ phase =>
      cases hp'
      exact hc s phase hsent
    | refused | lost | ended | expired | broken => cases hp'
  dialled b _ _ _ := fun s hp => by cases hp
  stirred _ _ _ _ hc := hc

/-- What a step makes of a connection that is leaving; it leaves less to do. -/
theorem Progress.leaving (h : Progress ctx c c') (hc : c.Leaving limit) :
    c'.Leaving limit ∧ c'.workLeft ctx < c.workLeft ctx := by
  have hdriven := h.isDriven
  obtain hover | ⟨s, deadline, hp, hsent, hdeadline, hlimit⟩ := hc
  · simp [Connection.isDriven, hover] at hdriven
  have hwork : 0 < c.workLeft ctx := by
    rw [workLeft_of_live hp]
    omega
  -- After the close frame the driver sends nothing more, which leaves the arrivals and the timers.
  have hopen {t : Session} (phase : c.phase = .live t) (closeSent : t.closeSent = false) : False := by
    rw [hp] at phase
    cases phase
    rw [closeSent] at hsent
    cases hsent
  have hdial {since : Nat} {delay : Option Nat} (phase : c.phase = .dialling since delay) : False := by
    rw [hp] at phase
    cases phase
  cases h with
  | refused e log phase => exact (hdial phase).elim
  | opened log phase => exact (hdial phase).elim
  | quiet log phase _ closeSent => exact (hopen phase closeSent).elim
  | sent log phase attempt =>
    cases attempt with
    | text _ _ closeSent => exact (hopen phase closeSent).elim
    | close _ _ closeSent => exact (hopen phase closeSent).elim
    | audio _ _ closeSent => exact (hopen phase closeSent).elim
    | ping closeSent => exact (hopen phase closeSent).elim
  | spent phase writable =>
    refine ⟨.inr ⟨s, deadline, hp, hsent, hdeadline, hlimit⟩, workLeft_lt_of_live hp hp ?_⟩
    simp [writable]
  | discarded phase inbound =>
    cases hp.symm.trans phase
    refine ⟨.inr ⟨_, deadline, rfl, hsent, hdeadline, hlimit⟩, workLeft_lt_of_live hp rfl ?_⟩
    simp [inbound, Session.pingsLeft]
  | taken log phase inbound =>
    cases hp.symm.trans phase
    refine ⟨.inr ⟨_, deadline, rfl, hsent, hdeadline, hlimit⟩, workLeft_lt_of_live hp rfl ?_⟩
    simp [inbound, Session.pingsLeft]
  | heard phase inbound =>
    cases hp.symm.trans phase
    refine ⟨.inr ⟨_, deadline, rfl, hsent, hdeadline, hlimit⟩, workLeft_lt_of_live hp rfl ?_⟩
    simp [inbound, Session.pingsLeft]
  | lost | ended | expired | broken => exact ⟨.inl rfl, hwork⟩

theorem keptAlone_leaving (limit : Nat) : KeptAlone (fun _ => True) (Leaving limit) where
  progress _ _ h hc := (h.leaving hc).1
  dialled b hstanding hidle hc := by
    have hphase := (hstanding.of_idle hidle).1
    obtain hover | ⟨s, _, hp, _⟩ := hc
    · rw [hphase] at hover
      cases hover
    · rw [hphase] at hp
      cases hp
  stirred _ _ _ _ hc := hc

theorem keptAlone_over : KeptAlone (fun _ => True) fun c => c.phase = .over where
  progress _ _ h hc := by
    have hdriven := h.isDriven
    simp [isDriven, hc] at hdriven
  dialled _ hstanding hidle hc := by
    rw [(hstanding.of_idle hidle).1] at hc
    cases hc
  stirred _ _ _ _ hc := hc

/-! ### The deadline -/

/-- A driver that is leaving comes to rest. -/
theorem rest_driveFor (n : Nat) (hstanding : c.Standing false) (hc : c.Leaving limit)
    (hn : c.workLeft ctx ≤ n) :
    (driveFor ctx n c).step? ctx = none ∧ (driveFor ctx n c).Leaving limit := by
  induction n generalizing c with
  | zero =>
    refine ⟨?_, hc⟩
    change c.step? ctx = none
    cases hstep : c.step? ctx with
    | none => rfl
    | some c' =>
      have hless := ((progress_of_step hstanding hstep).leaving hc).2
      omega
  | succ n ih =>
    rw [driveFor_succ]
    cases hstep : c.step? ctx with
    | none =>
      rw [Option.getD_none, driveFor_of_none hstep]
      exact ⟨hstep, hc⟩
    | some c' =>
      have hprogress := progress_of_step hstanding hstep
      obtain ⟨hleaving, hless⟩ := hprogress.leaving hc
      rw [Option.getD_some]
      exact ih (hstanding.progress hprogress) hleaving (by omega)

/-- At rest behind the deadline the driver is over. -/
theorem over_drive (hstanding : c.Standing false) (hc : c.Leaving limit) (hlate : limit < ctx.now) :
    (c.drive ctx).phase = .over := by
  obtain ⟨hrest, hleaving⟩ := rest_driveFor _ hstanding hc (Nat.le_refl (c.workLeft ctx))
  obtain hover | ⟨s, deadline, hp, -, hdeadline, hlimit⟩ := hleaving
  · exact hover
  · have hnow := attend?_closeTimeout_eq_none.mp
      (attend?_of_rest hp (step?_eq_none_iff.mp hrest) .closeTimeout)
    have := hnow deadline hdeadline
    omega

theorem Standing.over_of_closing (h : c.Standing false) (hs : c.state = .disconnecting)
    (hdriven : c.isDriven = false) : c.phase = .over := by
  cases h with
  | disconnecting _ phase => simp [isDriven, phase] at hdriven
  | dropped phase | cutLive phase => exact phase
  | _ => simp_all

/-- An outcome is on record once the driver is over, unless it was cut off. -/
theorem Standing.outcome_of_over (h : c.Standing false) (hover : c.phase = .over) (hwhole : ¬c.CutOff) :
    ∃ o, c.outcome = some o := by
  cases h with
  | failed _ _ outcome | dropped _ _ outcome | closed _ _ outcome => exact ⟨_, outcome⟩
  | cutDialling stopped => cases stopped
  | cutLive phase _ outcome => exact absurd ⟨phase, outcome⟩ hwhole
  | _ => simp_all

end Connection

namespace Bridge

variable {b : Bridge} {id : String} {c : Connection} {limit : Nat}

/-- There is nothing left to do on a connection of a bridge that has settled. -/
theorem Tended.idle_settle (h : b.Tended) (hc : b.settle.find? id = some c) : c.Idle := by
  have hsettled := settled_settle (fun c hc => h.running ▸ h.kept c hc) h.running
  have hafter := h.settle
  obtain ⟨hstanding, hwired⟩ := hafter.kept c (List.mem_of_find?_eq_some hc)
  obtain ⟨hconnects, hdisconnects, hwrites⟩ := hafter.vigilant.queues_eq_nil hsettled.wake
  exact (hafter.vigilant.watched id c hc).idle hstanding hwired hconnects hdisconnects hwrites
    (hsettled.writable c (List.mem_of_find?_eq_some hc))

/-- A connection that is going has sent its close frame once the bridge has settled. -/
theorem leaving_settle (h : b.Tended) (hc : b.find? id = some c) (hgoing : c.Going) (hdue : c.DueBy limit)
    (hlimit : b.now + b.config.closeTimeout.nanos ≤ limit) :
    ∃ c', b.settle.find? id = some c' ∧ c'.Leaving limit := by
  obtain ⟨c', hc', hgoing'⟩ := Connection.keptAlone_going.settle h trivial hc hgoing
  obtain ⟨d, hd, hdue'⟩ := (Connection.keptAlone_dueBy limit).settle h hlimit hc hdue
  rw [hc'] at hd
  cases hd
  refine ⟨c', hc', ?_⟩
  obtain hclosing | hover := hgoing'
  · have hafter := h.settle
    obtain ⟨hstanding, hwired⟩ := hafter.kept c' (List.mem_of_find?_eq_some hc')
    cases hdriven : c'.isDriven with
    | false => exact .inl (hstanding.over_of_closing hclosing hdriven)
    | true =>
      obtain ⟨s, hp⟩ := hstanding.live_of_state (.inr hclosing) hdriven
      have hsent := (hwired.closeSent s hp).mpr ((h.idle_settle hc').close hclosing hdriven)
      obtain ⟨deadline, hdeadline, hle⟩ := hdue' s hp hsent
      exact .inr ⟨s, deadline, hp, hsent, hdeadline, hle⟩
  · exact .inl hover

/-- Behind the deadline the driver is over once the bridge has settled. -/
theorem over_settle (h : b.Tended) (hc : b.find? id = some c) (hleaving : c.Leaving limit)
    (hlate : limit < b.now) : ∃ c', b.settle.find? id = some c' ∧ c'.phase = .over := by
  have hloop : b.move .loop = b.loopRound := by simp [move, h.running]
  have hspares := Move.spares_of_isOwn (m := .loop) rfl id
  obtain ⟨c₁, hc₁, hleaving₁⟩ := (Connection.keptAlone_leaving limit).move h trivial hspares hc hleaving
  have htended := h.move hspares.1
  have hcontext : b.loopRound.context = b.context := by
    rw [← hloop]
    exact context_move rfl b
  rw [hloop] at hc₁ htended
  have hkept : ∀ c ∈ b.loopRound.roster, c.Standing false := fun c hc => (htended.kept c hc).1
  have hsettle : b.settle = b.loopRound.driveAll := by simp [Bridge.settle, h.running]
  refine ⟨c₁.drive b.loopRound.context, ?_, ?_⟩
  · rw [hsettle, find?_driveAll hkept, hc₁]
    rfl
  · apply Connection.over_drive (htended.standing hc₁) hleaving₁
    rwa [hcontext]

end Bridge

end VoiceBridge
