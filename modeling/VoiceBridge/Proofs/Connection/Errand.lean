import VoiceBridge.Proofs.Connection.Progress

/-!
# Seeing to one thing

A driver waits for several things at once, and where more than one is ready it may see to any of them.
`step?` takes the first in a fixed order. A driver is at rest when nothing is ready, in whichever order it
goes (`step?_eq_none_iff`), and then the clock can tell all that it waits for (`inReach_of_rest`).
-/

namespace VoiceBridge

theorem Errand.mem_order (e : Errand) : e ∈ Errand.order := by cases e <;> decide

namespace Connection

/-- Nothing is ready in the fixed order just if nothing is ready at all. -/
theorem step?_eq_none_iff {ctx : LoopContext} {c : Connection} :
    c.step? ctx = none ↔ ∀ e, c.seeTo? ctx e = none := by
  rw [step?, List.findSome?_eq_none_iff]
  exact ⟨fun h e => h e e.mem_order, fun h e _ => h e⟩

theorem step?_of_turn {ctx : LoopContext} {c c' : Connection} (h : c.seeTo? ctx .turn = some c') :
    c.step? ctx = some c' := by
  obtain ⟨s, hp, hreach, hw, rfl⟩ := exists_of_seeTo?_turn h
  simp [step?, Errand.order, seeTo?, hp, hreach, attend?, hw]

/-- A step in the fixed order sees to something, and to a turn before all else. -/
theorem exists_seeTo?_of_step? {ctx : LoopContext} {c c' : Connection} (h : c.step? ctx = some c') :
    ∃ e, c.seeTo? ctx e = some c' ∧ (e ≠ .turn → c.seeTo? ctx .turn = none) := by
  cases hturn : c.seeTo? ctx .turn with
  | none =>
    obtain ⟨e, _, he⟩ := List.exists_of_findSome?_eq_some h
    exact ⟨e, he, fun _ => rfl⟩
  | some d =>
    rw [step?_of_turn hturn] at h
    exact ⟨.turn, hturn.trans h, fun hother => absurd rfl hother⟩

theorem progress_of_step {stopped : Bool} {ctx : LoopContext} {c c' : Connection}
    (h : c.Standing stopped) (hstep : c.step? ctx = some c') : Progress ctx c c' := by
  obtain ⟨e, he, _⟩ := exists_seeTo?_of_step? hstep
  exact progress_of_seeTo? h he

theorem seeTo?_of_undriven {ctx : LoopContext} {c : Connection} (h : c.isDriven = false) (e : Errand) :
    c.seeTo? ctx e = none := by
  unfold isDriven at h
  unfold seeTo?
  split at h <;> simp_all

theorem seeTo?_of_dialling {ctx : LoopContext} {c : Connection} {since : Nat} {delay : Option Nat}
    (hp : c.phase = .dialling since delay) (e : Errand) :
    c.seeTo? ctx e = c.dial? ctx since delay e := by
  rw [seeTo?, hp]

section Live

variable {ctx : LoopContext} {c : Connection} {s : Session}

/-- A driver that can reckon its deadlines attends to its wire. -/
theorem seeTo?_of_live (hp : c.phase = .live s) (hreach : s.inReach ctx = true) (e : Errand) :
    c.seeTo? ctx e = c.attend? ctx s e := by
  rw [seeTo?, hp]
  exact if_pos hreach

/-- What is done for an open wire by a driver that does not break down. -/
theorem attend?_of_seeTo? {c' : Connection} {e : Errand} (hp : c.phase = .live s) (he : e ≠ .reckon)
    (h : c.seeTo? ctx e = some c') : c.attend? ctx s e = some c' := by
  simp only [seeTo?, hp, if_neg he] at h
  split at h
  · exact h
  · cases h

/-- A driver that cannot reckon its deadlines breaks down. -/
theorem seeTo?_reckon (hp : c.phase = .live s) (hreach : s.inReach ctx = false) :
    c.seeTo? ctx .reckon = some c.driverGone := by
  rw [seeTo?, hp]
  dsimp only
  rw [if_neg (by simp [hreach]), if_pos rfl]

/-- Where nothing is ready the clock can tell all that the driver waits for. -/
theorem inReach_of_rest (hp : c.phase = .live s) (h : ∀ e, c.seeTo? ctx e = none) :
    s.inReach ctx = true := by
  cases hreach : s.inReach ctx with
  | true => rfl
  | false =>
    have hgone := h .reckon
    rw [seeTo?_reckon hp hreach] at hgone
    cases hgone

theorem attend?_of_rest (hp : c.phase = .live s) (h : ∀ e, c.seeTo? ctx e = none) (e : Errand) :
    c.attend? ctx s e = none := by
  rw [← seeTo?_of_live hp (inReach_of_rest hp h)]
  exact h e

theorem attend?_silence_eq_none :
    c.attend? ctx s .silence = none ↔
      (s.ping.isSome = true → ctx.now ≤ s.lastHeard + ctx.config.pongTimeout.nanos) := by
  simp [attend?]

theorem attend?_closeTimeout_eq_none :
    c.attend? ctx s .closeTimeout = none ↔
      ∀ deadline, s.closeDeadline = some deadline → ctx.now ≤ deadline := by
  cases hdeadline : s.closeDeadline <;> simp [attend?, hdeadline]

end Live

theorem phase_endedBy (ctx : LoopContext) (e : Ending) (c : Connection) :
    (c.endedBy ctx e).phase = .over := by
  unfold endedBy
  split
  · rfl
  · split <;> rfl

end Connection

end VoiceBridge
