import VoiceBridge.Proofs.Connection.WorkLeft

/-!
# Scenarios are plays

A scenario settles the bridge after each of its steps. Each is a play with the same actions
(`exists_play_step`), so what holds after every play holds after every scenario and at every point
within one. To settle a bridge leaves it with nothing ready at any connection (`atRest_settle`), and so
with no turn to take.
-/

namespace VoiceBridge

namespace Connection

/-- The wire is open and the driver at work. -/
def isLive (c : Connection) : Bool :=
  match c.phase with
  | .live _ => true
  | .absent | .dialling .. | .over => false

theorem isLive_iff {c : Connection} : c.isLive = true ↔ ∃ s, c.phase = .live s := by
  unfold isLive
  cases c.phase <;> simp

theorem isLive_of_phase {c : Connection} {s : Session} (hp : c.phase = .live s) : c.isLive = true :=
  isLive_iff.mpr ⟨s, hp⟩

end Connection

namespace Bridge

/-- The loop has no wake-up left and no driver a turn to take. -/
structure Settled (b : Bridge) : Prop where
  wake : b.queues.wake = false
  writable : ∀ c ∈ b.roster, c.isLive = true → c.writable = false

instance (b : Bridge) : Decidable b.Settled :=
  decidable_of_iff (b.queues.wake = false ∧ ∀ c ∈ b.roster, c.isLive = true → c.writable = false)
    ⟨fun h => ⟨h.1, h.2⟩, fun h => ⟨h.wake, h.writable⟩⟩

/-- The loop has no wake-up left and no driver anything to do. -/
structure AtRest (b : Bridge) : Prop where
  wake : b.queues.wake = false
  still : ∀ c ∈ b.roster, c.step? b.context = none

instance (b : Bridge) : Decidable b.AtRest :=
  decidable_of_iff (b.queues.wake = false ∧ ∀ c ∈ b.roster, c.step? b.context = none)
    ⟨fun h => ⟨h.1, h.2⟩, fun h => ⟨h.wake, h.still⟩⟩

theorem AtRest.settled {b : Bridge} (h : b.AtRest) : b.Settled where
  wake := h.wake
  writable c hc hlive := by
    obtain ⟨s, hp⟩ := Connection.isLive_iff.mp hlive
    exact Connection.writable_of_step?_eq_none (h.still c hc) hp

theorem AtRest.seeTo? {b : Bridge} (h : b.AtRest) {id : String} {c : Connection}
    (hc : b.find? id = some c) (e : Errand) : c.seeTo? b.context e = none :=
  Connection.step?_eq_none_iff.mp (h.still c (List.mem_of_find?_eq_some hc)) e

/-- The loop goes before the drivers, and with a driver a turn before anything else. -/
def TurnsFirst (b : Bridge) : Move → Prop
  | .errand n e => b.queues.wake = false ∧
      (e ≠ .turn → ∀ c, b.roster[n]? = some c → c.seeTo? b.context .turn = none)
  | _ => True

/-! ### Drivers one after the other -/

/-- The moves of drivers that see to one thing after another. -/
def errands (todo : List (Nat × Errand)) : List Move := todo.map fun (n, e) => .errand n e

theorem modify_congr {α : Type*} {l : List α} {n : Nat} {f g : α → α}
    (h : ∀ x, l[n]? = some x → f x = g x) : l.modify n f = l.modify n g := by
  refine List.ext_getElem? fun i => ?_
  rw [List.getElem?_modify, List.getElem?_modify]
  split
  · rename_i hi
    subst hi
    cases hx : l[n]? with
    | none => rfl
    | some x => simp [h x hx]
  · rfl

/-- A step in the fixed order is an errand, unless there is nothing to do. -/
theorem exists_errands_step (b : Bridge) (h : b.queues.stopped = false) (n : Nat) :
    ∃ todo, b.play (errands todo) =
        { b with roster := b.roster.modify n fun c => (c.step? b.context).getD c } ∧
      (b.queues.wake = false → b.Along TurnsFirst (errands todo)) := by
  cases hstep : b.roster[n]?.bind (·.step? b.context) with
  | none =>
    have hsame : (b.roster.modify n fun c => (c.step? b.context).getD c) = b.roster.modify n id :=
      modify_congr fun c hc => by
        rw [hc, Option.bind_some] at hstep
        rw [hstep]
        rfl
    exact ⟨[], by rw [hsame, List.modify_id]; rfl, fun _ => trivial⟩
  | some c' =>
    obtain ⟨c, hc, hstep⟩ := Option.bind_eq_some_iff.mp hstep
    obtain ⟨e, he, hturn⟩ := Connection.exists_seeTo?_of_step? hstep
    refine ⟨[(n, e)], ?_, fun hwake => ⟨⟨hwake, fun hother d hd => ?_⟩, trivial⟩⟩
    · change b.move (.errand n e) = _
      rw [move_errand_of_running h, seeToOne]
      congr 1
      refine modify_congr fun d hd => ?_
      rw [hc] at hd
      cases hd
      rw [he, hstep]
    · rw [hc] at hd
      cases hd
      exact hturn hother

theorem errands_append (first later : List (Nat × Errand)) :
    errands (first ++ later) = errands first ++ errands later := List.map_append

theorem exists_errands_driveFor {b : Bridge} (h : b.queues.stopped = false) (n k : Nat) :
    ∃ todo, b.play (errands todo) =
        { b with roster := b.roster.modify n (Connection.driveFor b.context k) } ∧
      (b.queues.wake = false → b.Along TurnsFirst (errands todo)) := by
  induction k generalizing b with
  | zero =>
    have hid : Connection.driveFor b.context 0 = id := rfl
    rw [hid, List.modify_id]
    exact ⟨[], rfl, fun _ => trivial⟩
  | succ k ih =>
    obtain ⟨first, hfirst, hturns⟩ := exists_errands_step b h n
    obtain ⟨later, hlater, hturns'⟩ :=
      ih (b := { b with roster := b.roster.modify n fun c => (c.step? b.context).getD c }) h
    refine ⟨first ++ later, ?_, fun hwake => ?_⟩
    · rw [errands_append, play_append, hfirst, hlater]
      have hmodify : (b.roster.modify n fun c => (c.step? b.context).getD c).modify n
          (Connection.driveFor b.context k) =
            b.roster.modify n (Connection.driveFor b.context (k + 1)) := by
        rw [List.modify_modify_eq]
        congr 1
        funext c
        exact (Connection.driveFor_succ b.context k c).symm
      exact congrArg (fun roster => { b with roster }) hmodify
    · rw [errands_append, along_append, hfirst]
      exact ⟨hturns hwake, hturns' hwake⟩

theorem modify_length_append {α : Type*} (f : α → α) (front : List α) (x : α) (rest : List α) :
    (front ++ x :: rest).modify front.length f = front ++ f x :: rest := by
  induction front with
  | nil => rfl
  | cons y front ih => rw [List.cons_append, List.length_cons, List.modify_succ_cons, ih]; rfl

/-- All drivers can be driven by errands. -/
theorem exists_errands_drives (waiting : List Connection) :
    ∀ (b : Bridge) (front : List Connection), b.queues.stopped = false → b.roster = front ++ waiting →
      ∃ todo, b.play (errands todo) =
          { b with roster := front ++ waiting.map (·.drive b.context) } ∧
        (b.queues.wake = false → b.Along TurnsFirst (errands todo)) := by
  induction waiting with
  | nil =>
    intro b front _ hroster
    refine ⟨[], ?_, fun _ => trivial⟩
    rw [List.map_nil, ← hroster]
    rfl
  | cons c rest ih =>
    intro b front hs hroster
    obtain ⟨first, hfirst, hturns⟩ := exists_errands_driveFor hs front.length (c.workLeft b.context)
    rw [hroster, modify_length_append] at hfirst
    obtain ⟨later, hlater, hturns'⟩ := ih { b with roster := front ++ c.drive b.context :: rest }
      (front ++ [c.drive b.context]) hs (by simp)
    refine ⟨first ++ later, ?_, fun hwake => ?_⟩
    · rw [errands_append, play_append, hfirst]
      refine hlater.trans ?_
      rw [List.append_assoc]
      rfl
    · rw [errands_append, along_append, hfirst]
      exact ⟨hturns hwake, hturns' hwake⟩

/-! ### Scenarios -/

theorem stopped_loopRound (b : Bridge) : b.loopRound.queues.stopped = b.queues.stopped := by
  cases hw : b.queues.wake with
  | false => rw [loopRound_of_not_wake hw]
  | true => rw [loopRound_of_wake hw]

theorem wake_loopRound (b : Bridge) : b.loopRound.queues.wake = false := by
  cases hw : b.queues.wake with
  | false => rw [loopRound_of_not_wake hw]; exact hw
  | true => rw [loopRound_of_wake hw]

/-- To settle is a round of the loop and then errands of the drivers, turns first. -/
theorem exists_errands_settle (b : Bridge) :
    ∃ todo, b.settle = (b.move .loop).play (errands todo) ∧
      (b.move .loop).Along TurnsFirst (errands todo) := by
  cases hs : b.queues.stopped with
  | true => exact ⟨[], by simp [settle, move, hs, errands], trivial⟩
  | false =>
    obtain ⟨todo, hplay, hturns⟩ := exists_errands_drives b.loopRound.roster b.loopRound []
      ((stopped_loopRound b).trans hs) rfl
    have hmove : b.move .loop = b.loopRound := by simp [move, hs]
    refine ⟨todo, ?_, ?_⟩
    · rw [hmove, hplay, settle, if_neg (by simp [hs])]
      rfl
    · rw [hmove]
      exact hturns (wake_loopRound b)

/-- To settle is a round of the loop and then a play without actions. -/
theorem exists_play_settle (b : Bridge) :
    ∃ moves : List Move, moves.filterMap Move.action? = [] ∧ b.settle = (b.move .loop).play moves := by
  obtain ⟨todo, hsettle, _⟩ := exists_errands_settle b
  refine ⟨errands todo, ?_, hsettle⟩
  rw [errands, List.filterMap_map]
  exact List.filterMap_eq_nil_iff.mpr fun _ _ => rfl

/-- To settle is to play on. -/
theorem exists_later_settle (b : Bridge) (moves : List Move) :
    ∃ later, (b.play moves).settle = b.play (moves ++ later) := by
  obtain ⟨later, _, hsettle⟩ := exists_play_settle (b.play moves)
  exact ⟨.loop :: later, by rw [play_append, play_cons, hsettle]⟩

/-- To jump is to wait and then to settle. -/
theorem jump_play (b : Bridge) (moves : List Move) (nanos : Nat) :
    (b.play moves).jump nanos = (b.play (moves ++ [.wait nanos])).settle := by
  rw [play_append]
  rfl

theorem actAll_eq (b : Bridge) (actions : List Action) :
    (b.actAll actions).2 = b.play (actions.map .act) := by
  induction actions generalizing b with
  | nil => rfl
  | cons action rest ih => exact ih _

theorem filterMap_action?_acts (actions : List Action) :
    (actions.map Move.act).filterMap Move.action? = actions := by
  rw [List.filterMap_map]
  exact List.filterMap_some

theorem exists_play_advance (b : Bridge) (jumps : List Nat) :
    ∃ moves : List Move, moves.filterMap Move.action? = [] ∧ b.advance jumps = b.play moves := by
  induction jumps generalizing b with
  | nil => exact ⟨[], rfl, rfl⟩
  | cons nanos rest ih =>
    obtain ⟨moves, hmoves, hsettle⟩ := exists_play_settle { b with now := b.now + nanos }
    obtain ⟨later, hlater, hadvance⟩ := ih (b.jump nanos)
    refine ⟨.wait nanos :: .loop :: moves ++ later, ?_, ?_⟩
    · rw [List.filterMap_append, hlater, List.append_nil]
      exact hmoves
    · rw [List.cons_append, List.cons_append, play_cons, play_cons, play_append]
      change (b.jump nanos).advance rest = _
      rw [hadvance, jump, hsettle]
      rfl

/-- A step of a scenario is a play with the same actions. -/
theorem exists_play_step (b : Bridge) (step : Step) :
    ∃ moves : List Move, moves.filterMap Move.action? = step.actions ∧
      (b.step step).2 = b.play moves := by
  cases step with
  | acts actions =>
    obtain ⟨moves, hmoves, hsettle⟩ := exists_play_settle (b.actAll actions).2
    refine ⟨actions.map .act ++ .loop :: moves, ?_, ?_⟩
    · rw [List.filterMap_append, filterMap_action?_acts]
      exact (congrArg (actions ++ ·) hmoves).trans (List.append_nil _)
    · rw [play_append, ← actAll_eq]
      exact hsettle
  | advance jumps => exact exists_play_advance b jumps

theorem wake_move_loop {b : Bridge} (h : b.queues.stopped = false) :
    (b.move .loop).queues.wake = false := by
  have hmove : b.move .loop = b.loopRound := by simp [move, h]
  rw [hmove]
  exact wake_loopRound b

theorem stopped_settle (b : Bridge) : b.settle.queues.stopped = b.queues.stopped := by
  unfold settle
  split
  · rfl
  · exact stopped_loopRound b

/-- To settle gives rest. -/
theorem atRest_settle {b : Bridge} (hb : ∀ c ∈ b.roster, c.Standing b.queues.stopped ∧ c.Wired)
    (hs : b.queues.stopped = false) : b.settle.AtRest := by
  rw [hs] at hb
  have hloop := Connection.wired_kept.loopRound hb
  rw [settle, if_neg (by simp [hs])]
  refine ⟨wake_loopRound b, fun c hc => ?_⟩
  obtain ⟨d, hd, rfl⟩ := List.mem_map.mp hc
  exact Connection.step?_drive (hloop d hd).1 (hloop d hd).2

theorem settled_settle {b : Bridge} (hb : ∀ c ∈ b.roster, c.Standing b.queues.stopped ∧ c.Wired)
    (hs : b.queues.stopped = false) : b.settle.Settled :=
  (atRest_settle hb hs).settled

end Bridge

end VoiceBridge
