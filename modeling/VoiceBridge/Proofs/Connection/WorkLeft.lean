import VoiceBridge.Proofs.Connection.Errand
import VoiceBridge.Proofs.Connection.Wiring

/-!
# A driver comes to rest

`workLeft` bounds the steps of a driver, in whatever order it takes them: each step leaves less of it, since
a tick puts off the next ping by a period (`workLeft_progress`). So `drive` ends with nothing ready
(`step?_drive`).
-/

namespace VoiceBridge

/-- A tick makes up for at least one of the ticks that are due. -/
theorem PingTimer.ticksDue_ticked {p : PingTimer} {now : Nat} (hperiod : 0 < p.period)
    (hdue : p.next < now) : (p.ticked now).ticksDue now < p.ticksDue now := by
  have hbefore : p.ticksDue now = (now - p.next) / p.period + 1 := if_neg (Nat.not_le.mpr hdue)
  rw [hbefore]
  unfold ticked ticksDue
  dsimp only
  generalize p.next = next at hdue ⊢
  generalize p.period = period at hperiod ⊢
  by_cases hlate : next + patience < now
  · rw [if_pos hlate, if_pos (Nat.le_add_right _ _)]
    exact Nat.succ_pos _
  · rw [if_neg hlate]
    split
    · exact Nat.succ_pos _
    · rename_i hstill
      have hsplit : now - next = now - (next + period) + period := by omega
      rw [hsplit, Nat.add_div_right _ hperiod]
      exact Nat.lt_succ_self _

/-- How much of `workLeft` is for the close frame and the pings. -/
def Session.pingsLeft (now : Nat) (s : Session) : Nat :=
  if s.closeSent then 0 else 2 + 2 * ((s.ping.map fun p => p.ticksDue now).getD 0)

namespace Connection

variable {ctx : LoopContext} {c c' : Connection}

theorem workLeft_of_live {s : Session} (hp : c.phase = .live s) :
    c.workLeft ctx = 1 + c.wire.inbound.length + 2 * c.outbox.length +
      (if c.writable then 1 else 0) + s.pingsLeft ctx.now := by
  simp only [workLeft, hp, Session.pingsLeft]

theorem workLeft_lt_of_live {s s' : Session} (hp : c.phase = .live s) (hp' : c'.phase = .live s')
    (h : c'.wire.inbound.length + 2 * c'.outbox.length + (if c'.writable then 1 else 0) +
      s'.pingsLeft ctx.now < c.wire.inbound.length + 2 * c.outbox.length +
        (if c.writable then 1 else 0) + s.pingsLeft ctx.now) : c'.workLeft ctx < c.workLeft ctx := by
  rw [workLeft_of_live hp, workLeft_of_live hp']
  omega

theorem pingsLeft_begin (ctx : LoopContext) (config : ConnectionConfig) :
    (Session.begin ctx config).pingsLeft ctx.now = 2 := by
  unfold Session.pingsLeft Session.begin
  cases config.profile.keepaliveInterval ctx.config.keepalive <;> simp [PingTimer.ticksDue]

/-- The close frame ends the pings, and its answer counts for less. -/
theorem pingsLeft_closed {s : Session} (now deadline : Nat) (h : s.closeSent = false) :
    Session.pingsLeft now { s with closeSent := true, closeDeadline := some deadline } + 2 ≤
      s.pingsLeft now := by
  simp [Session.pingsLeft, h]

/-- A ping that is due is taken off, and its answer counts for less. -/
theorem pingsLeft_pinged {s : Session} {p : PingTimer} {now : Nat} (hclose : s.closeSent = false)
    (htimer : s.ping = some p) (hperiod : 0 < p.period) (hdue : p.next < now) :
    Session.pingsLeft now { s with ping := some (p.ticked now) } + 2 ≤ s.pingsLeft now := by
  have hless := PingTimer.ticksDue_ticked hperiod hdue
  simp only [Session.pingsLeft, hclose, htimer, Bool.false_eq_true, if_false, Option.map_some,
    Option.getD_some]
  omega

/-- A step leaves less to do. -/
theorem workLeft_progress (h : Progress ctx c c') (hwired : c.Wired) :
    c'.workLeft ctx < c.workLeft ctx := by
  have hlive : ∀ s, c.phase = .live s → 0 < c.workLeft ctx := by
    intro s hp
    rw [workLeft_of_live hp]
    omega
  cases h with
  | refused e log phase =>
    change 0 < c.workLeft ctx
    rw [workLeft, phase]
    dsimp only
    omega
  | opened log phase =>
    rw [workLeft_of_live (s := .begin ctx c.config) rfl, pingsLeft_begin, workLeft, phase]
    dsimp only
    split <;> omega
  | spent phase writable =>
    refine workLeft_lt_of_live phase phase ?_
    simp [writable]
  | quiet log phase writable closeSent outbox =>
    refine workLeft_lt_of_live phase phase ?_
    simp [turned, writable, outbox]
  | @sent s f before after log phase attempt sound =>
    have hecho := Wire.length_echo_le ctx.network f
    cases attempt with
    | @text f rest log' writable closeSent outbox =>
      have hf := hwired.outbox f (by rw [outbox]; exact List.mem_cons_self)
      have hnone := Wire.echo_of_isQueued ctx.network hf
      refine workLeft_lt_of_live phase phase ?_
      simp only [Wire.sending, turned, hnone, List.append_nil, writable, outbox, List.length_cons]
      generalize (!rest.isEmpty || c.audio.hasPending || c.state == .disconnecting) = more
      cases more <;> simp only [Bool.false_eq_true, if_true, if_false] <;> omega
    | close log' writable closeSent outbox state =>
      have hpings := pingsLeft_closed ctx.now (ctx.now + ctx.config.closeTimeout.nanos) closeSent
      refine workLeft_lt_of_live phase rfl ?_
      simp only [Wire.sending, turned, List.length_append, writable, outbox, if_true]
      simp only [Bool.false_eq_true, if_false]
      omega
    | audio log' writable closeSent outbox state =>
      refine workLeft_lt_of_live phase phase ?_
      simp [Wire.sending, Wire.echo, turned, writable, outbox]
    | ping closeSent timer due period =>
      have hpings := pingsLeft_pinged closeSent timer period due
      refine workLeft_lt_of_live phase rfl ?_
      simp only [Wire.sending, List.length_append]
      omega
  | lost log phase => exact hlive _ phase
  | discarded phase inbound =>
    refine workLeft_lt_of_live phase rfl ?_
    simp [inbound, Session.pingsLeft]
  | taken log phase inbound =>
    refine workLeft_lt_of_live phase rfl ?_
    simp [inbound, Session.pingsLeft]
  | heard phase inbound =>
    refine workLeft_lt_of_live phase rfl ?_
    simp [inbound, Session.pingsLeft]
  | ended log phase => exact hlive _ phase
  | expired log phase => exact hlive _ phase
  | broken phase => exact hlive _ phase

/-! ### One step after another -/

theorem driveFor_of_none (h : c.step? ctx = none) (n : Nat) : driveFor ctx n c = c := by
  cases n with
  | zero => rfl
  | succ n => simp [driveFor, h]

theorem driveFor_succ (ctx : LoopContext) (n : Nat) (c : Connection) :
    driveFor ctx (n + 1) c = driveFor ctx n ((c.step? ctx).getD c) := by
  cases h : c.step? ctx with
  | none => rw [driveFor_of_none h, Option.getD_none, driveFor_of_none h]
  | some c' => simp [driveFor, h]

/-- After as many steps as it has work left, a driver has nothing to do. -/
theorem step?_driveFor (n : Nat) (hstanding : c.Standing false) (hwired : c.Wired)
    (hn : c.workLeft ctx ≤ n) : (driveFor ctx n c).step? ctx = none := by
  induction n generalizing c with
  | zero =>
    change c.step? ctx = none
    cases hstep : c.step? ctx with
    | none => rfl
    | some c' =>
      have hless := workLeft_progress (progress_of_step hstanding hstep) hwired
      omega
  | succ n ih =>
    rw [driveFor_succ]
    cases hstep : c.step? ctx with
    | none =>
      rw [Option.getD_none, driveFor_of_none hstep]
      exact hstep
    | some c' =>
      have hprogress := progress_of_step hstanding hstep
      have hless := workLeft_progress hprogress hwired
      rw [Option.getD_some]
      exact ih (hstanding.progress hprogress) (hwired.progress hstanding hprogress) (by omega)

theorem step?_drive (hstanding : c.Standing false) (hwired : c.Wired) :
    (c.drive ctx).step? ctx = none :=
  step?_driveFor _ hstanding hwired (Nat.le_refl _)

/-- A driver with a turn to take is not at rest. -/
theorem writable_of_step?_eq_none {s : Session} (h : c.step? ctx = none) (hp : c.phase = .live s) :
    c.writable = false := by
  have hturn := attend?_of_rest hp (step?_eq_none_iff.mp h) .turn
  cases hw : c.writable with
  | false => rfl
  | true => simp [attend?, hw] at hturn

end Connection

end VoiceBridge
