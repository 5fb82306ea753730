import Mathlib.Algebra.GroupWithZero.Nat
import VoiceBridge.Proofs.Run.Flush
import VoiceBridge.Proofs.Run.Timers

/-!
# Going on until nothing is ready

In a moment of time the loop and the drivers can take only so many steps, in whatever order they take them.
`Bridge.workLeft` bounds their number. A step of a driver takes something off the work left at its own
connection and adds nothing elsewhere. A round of the loop adds work, a turn or the opening of a wire, but
only where that is charged for in advance as long as a wake-up is stored; then it uses up the wake-up.

Where nothing is ready any more the bridge is `Quiescent`.
-/

namespace VoiceBridge

namespace Connection

variable {ctx : LoopContext} {c c' : Connection}

/-- What a round of the loop can add to the work left: the opening of the wire, or else a turn. -/
def workAhead (c : Connection) : Nat :=
  match c.phase with
  | .absent => 5 + c.wire.inbound.length + 2 * c.outbox.length
  | .dialling .. | .live _ => 1
  | .over => 0

theorem workAhead_of_isDriven (h : c.isDriven = true) : c.workAhead = 1 := by
  unfold Connection.isDriven at h
  unfold workAhead
  split at h <;> simp_all

theorem workAhead_progress (h : Progress ctx c c') : c'.workAhead ≤ c.workAhead := by
  rw [workAhead_of_isDriven h.isDriven]
  unfold workAhead
  rcases h.isBegun with ⟨s, hp⟩ | hp
  · simp [hp]
  · simp [hp]

/-- No timer of the connection is past its deadline, and if its wire is open, there is neither a permit for
a turn nor anything to take in. -/
structure Quiet (ctx : LoopContext) (c : Connection) : Prop where
  dialling : ∀ since delay, c.phase = .dialling since delay → c.wire.faults.invalid = none ∧
    (∃ d, delay = some d ∧ ctx.now ≤ since + d) ∧ ctx.now ≤ since + ctx.config.connectTimeout.nanos
  live : ∀ s, c.phase = .live s → c.writable = false ∧ c.wire.inbound = [] ∧
    (∀ p, s.ping = some p → s.closeSent = false → ctx.now ≤ p.next) ∧
    (s.ping.isSome = true → ctx.now ≤ s.lastHeard + ctx.config.pongTimeout.nanos) ∧
    ∀ deadline, s.closeDeadline = some deadline → ctx.now ≤ deadline

theorem Quiet.of_seeTo? (h : ∀ e, c.seeTo? ctx e = none) : c.Quiet ctx where
  dialling since delay hp := by
    have hdial := h .dial
    simp only [seeTo?, hp, dial?] at hdial
    cases hinvalid : c.wire.faults.invalid with
    | some reason => simp [hinvalid] at hdial
    | none =>
      refine ⟨rfl, ?_, now_le_of_dialling hp h⟩
      cases hanswered : answered ctx since delay with
      | true => cases hrefusal : ctx.network.refusal <;> simp [hinvalid, hanswered, hrefusal] at hdial
      | false =>
        cases delay with
        | none => cases hanswered
        | some d => exact ⟨d, rfl, by simpa [answered] using hanswered⟩
  live s hp := rest_of_live hp h

end Connection

/-! ### A round of the loop -/

namespace Bridge

variable {b : Bridge} {c c' : Connection} {m : Move}

/-- What a round of the loop can make of a connection. -/
def TakenOver (b : Bridge) (c c' : Connection) : Prop :=
  ∃ d writable writeQueued, c' = { d with writable, writeQueued } ∧
    (d = c ∨ c.state = .idle ∧ d = b.dialled c)

theorem TakenOver.takeConnect (h : TakenOver b c c') : TakenOver b c (b.takeConnect c') := by
  by_cases hidle : c'.isAlive = true ∧ c'.state = .idle
  · obtain ⟨d, writable, writeQueued, rfl, rfl | ⟨_, rfl⟩⟩ := h
    · rw [takeConnect_of_idle hidle.1 hidle.2]
      exact ⟨b.dialled d, writable, writeQueued, rfl, .inr ⟨hidle.2, rfl⟩⟩
    · cases hidle.2
  · rw [takeConnect_of_not hidle]
    exact h

theorem TakenOver.takeDisconnect (h : TakenOver b c c') : TakenOver b c (takeDisconnect c') := by
  obtain ⟨d, _, writeQueued, rfl, hd⟩ := h
  rw [takeDisconnect_eq]
  exact ⟨d, _, writeQueued, rfl, hd⟩

theorem TakenOver.takeWrite (h : TakenOver b c c') : TakenOver b c (takeWrite c') := by
  obtain ⟨d, _, _, rfl, hd⟩ := h
  rw [takeWrite_eq]
  exact ⟨d, _, _, rfl, hd⟩

/-- What holds of the places of a list, and is kept by a change, holds after changes by name. -/
theorem forall₂_modifyEach {R : Connection → Connection → Prop} {f : Connection → Connection}
    (hf : ∀ {c c'}, R c c' → R c (f c')) (names : List String) {l l' : List Connection}
    (h : List.Forall₂ R l l') : List.Forall₂ R l (modifyEach names f l') := by
  have hone : ∀ (id : String) {l l' : List Connection}, List.Forall₂ R l l' →
      List.Forall₂ R l (modifyIn id f l') := by
    intro id l l' h
    induction h with
    | nil => exact .nil
    | @cons c c' _ _ hfirst hrest ih =>
      unfold modifyIn
      split
      · exact .cons (hf hfirst) hrest
      · exact .cons hfirst ih
  induction names generalizing l' with
  | nil => exact h
  | cons name names ih => exact ih (hone name h)

theorem takenOver_loopRound (hw : b.queues.wake = true) :
    List.Forall₂ (TakenOver b) b.roster b.loopRound.roster := by
  have hsame : List.Forall₂ (TakenOver b) b.roster b.roster :=
    List.forall₂_same.mpr fun c _ => ⟨c, c.writable, c.writeQueued, rfl, .inl rfl⟩
  rw [loopRound_of_wake hw]
  exact forall₂_modifyEach .takeWrite _ (forall₂_modifyEach .takeDisconnect _
    (forall₂_modifyEach .takeConnect _ hsame))

/-- A permit makes for one more step. -/
theorem workLeft_permitted (ctx : LoopContext) (c : Connection) (writable writeQueued : Bool) :
    Connection.workLeft ctx { c with writable, writeQueued } ≤ c.workLeft ctx + c.workAhead := by
  unfold Connection.workLeft Connection.workAhead
  dsimp only
  cases c.phase with
  | live s => cases writable <;> dsimp only <;> simp only [if_true, Bool.false_eq_true, if_false] <;> omega
  | _ => exact Nat.le_add_right _ _

/-- The work that a round of the loop adds was charged for in advance. -/
theorem workLeft_takenOver (hstanding : c.Standing b.queues.stopped) (h : TakenOver b c c') :
    c'.workLeft b.context ≤ c.workLeft b.context + c.workAhead := by
  obtain ⟨d, writable, writeQueued, rfl, rfl | ⟨hidle, rfl⟩⟩ := h
  · exact workLeft_permitted b.context d writable writeQueued
  · simp only [Connection.workLeft, Connection.workAhead, (hstanding.of_idle hidle).1, dialled]
    omega

/-! ### The work left in the bridge -/

/-- As long as a wake-up is stored, also what the round of the loop can add is left to do. -/
def workLeft (b : Bridge) : Nat :=
  (if b.queues.wake then 1 else 0) +
    (b.roster.map fun c => c.workLeft b.context + if b.queues.wake then c.workAhead else 0).sum

/-- A step that the loop or a driver can take now, without a call and in no time. -/
def Ready (b : Bridge) : Move → Prop
  | .loop => b.queues.stopped = false ∧ b.queues.wake = true
  | .errand n e => b.queues.stopped = false ∧
      (b.roster[n]?.bind fun c => c.seeTo? b.context e).isSome = true
  | _ => False

theorem Ready.isOwn (h : b.Ready m) : m.isOwn = true := by
  unfold Ready at h
  split at h <;> first | rfl | exact h.elim

theorem Ready.running (h : b.Ready m) : b.queues.stopped = false := by
  unfold Ready at h
  split at h
  · exact h.1
  · exact h.1
  · exact h.elim

theorem Ready.exists_seeTo? {n : Nat} {e : Errand} (h : b.Ready (.errand n e)) :
    ∃ c c', b.roster[n]? = some c ∧ c.seeTo? b.context e = some c' := by
  obtain ⟨c', hbind⟩ := Option.isSome_iff_exists.mp h.2
  obtain ⟨c, hc, hsee⟩ := Option.bind_eq_some_iff.mp hbind
  exact ⟨c, c', hc, hsee⟩

theorem sum_modify_lt {g : Connection → Nat} {f : Connection → Connection} :
    ∀ {l : List Connection} {n : Nat} {c : Connection}, l[n]? = some c → g (f c) < g c →
      ((l.modify n f).map g).sum < (l.map g).sum
  | [], _, _, h, _ => by simp at h
  | d :: l, 0, _, h, hless => by
    cases h
    simpa using hless
  | d :: l, n + 1, c, h, hless => by
    have hrest := sum_modify_lt (l := l) (n := n) (by simpa using h) hless
    simpa using hrest

theorem sum_le_sum_of_forall₂ {α : Type*} {R : α → α → Prop} {g g' : α → Nat} {l l' : List α}
    (h : List.Forall₂ R l l') (hle : ∀ x ∈ l, ∀ y, R x y → g' y ≤ g x) :
    (l'.map g').sum ≤ (l.map g).sum := by
  induction h with
  | nil => exact Nat.le_refl 0
  | cons hfirst _ ih =>
    rw [List.map_cons, List.map_cons, List.sum_cons, List.sum_cons]
    exact Nat.add_le_add (hle _ List.mem_cons_self _ hfirst)
      (ih fun x hx => hle x (List.mem_cons_of_mem _ hx))

theorem move_loop (b : Bridge) :
    b.move .loop = b ∨
      b.queues.stopped = false ∧ b.queues.wake = true ∧ b.move .loop = b.loopRound := by
  unfold move
  cases hs : b.queues.stopped with
  | true => exact .inl rfl
  | false =>
    cases hw : b.queues.wake with
    | false => exact .inl (loopRound_of_not_wake hw)
    | true => exact .inr ⟨rfl, rfl, rfl⟩

theorem workLeft_seeToOne {n : Nat} {e : Errand} (hc : b.roster[n]? = some c)
    (hsee : c.seeTo? b.context e = some c') (hless : c'.workLeft b.context < c.workLeft b.context)
    (hahead : c'.workAhead ≤ c.workAhead) : (b.seeToOne n e).workLeft < b.workLeft := by
  refine Nat.add_lt_add_left (sum_modify_lt hc ?_) _
  rw [hsee, Option.getD_some]
  change c'.workLeft b.context + (if b.queues.wake then c'.workAhead else 0) <
    c.workLeft b.context + if b.queues.wake then c.workAhead else 0
  split <;> omega

theorem workLeft_loopRound (hb : ∀ c ∈ b.roster, c.Standing b.queues.stopped)
    (hw : b.queues.wake = true) : b.loopRound.workLeft < b.workLeft := by
  have hcontext : b.loopRound.context = b.context := by rw [loopRound_of_wake hw]; rfl
  have hsum : (b.loopRound.roster.map fun c => c.workLeft b.context).sum ≤
      (b.roster.map fun c => c.workLeft b.context + c.workAhead).sum :=
    sum_le_sum_of_forall₂ (takenOver_loopRound hw) fun c hc _ htaken => workLeft_takenOver (hb c hc) htaken
  rw [workLeft, workLeft, hcontext, wake_loopRound, hw]
  simp only [if_true, Bool.false_eq_true, if_false, Nat.add_zero, Nat.zero_add]
  omega

/-- Every step leaves less to do. -/
theorem workLeft_ready {config : ServiceConfig} {moves : List Move}
    (h : (play { config } moves).Ready m) :
    ((play { config } moves).move m).workLeft < (play { config } moves).workLeft := by
  have hkept := wired_play config moves
  generalize play { config } moves = b at *
  have hrunning := h.running
  cases m with
  | errand n e =>
    rw [hrunning] at hkept
    obtain ⟨c, c', hc, hsee⟩ := h.exists_seeTo?
    obtain ⟨hstanding, hwired⟩ := hkept c (List.mem_of_getElem? hc)
    have hprogress := Connection.progress_of_seeTo? hstanding hsee
    rw [move_errand_of_running hrunning]
    exact workLeft_seeToOne hc hsee (Connection.workLeft_progress hprogress hwired)
      (Connection.workAhead_progress hprogress)
  | loop =>
    have hloop : b.move .loop = b.loopRound := if_neg (by simp [hrunning])
    rw [hloop]
    exact workLeft_loopRound (fun c hc => (hkept c hc).1) h.2
  | act | wait => exact h.elim

/-! ### Quiescence -/

/-- The loop, as long as it runs, has no wake-up stored, and all connections are quiet. -/
structure Quiescent (b : Bridge) : Prop where
  wake : b.queues.stopped = false → b.queues.wake = false
  quiet : ∀ c ∈ b.roster, c.Quiet b.context

/-- Where nothing is ready the bridge is quiescent. -/
theorem quiescent_of_not_ready (hb : ∀ c ∈ b.roster, c.Standing b.queues.stopped)
    (h : ∀ m, ¬b.Ready m) : b.Quiescent where
  wake hrunning := by
    have hloop := h .loop
    simpa [Ready, hrunning] using hloop
  quiet c hc := by
    cases hs : b.queues.stopped with
    | true =>
      have hundriven : c.isDriven = false := by
        by_contra hdriven
        have hrunning := (hb c hc).running_of_isDriven (by simpa using hdriven)
        simp [hs] at hrunning
      exact ⟨fun since delay hp => by simp [Connection.isDriven, hp] at hundriven,
        fun s hp => by simp [Connection.isDriven, hp] at hundriven⟩
    | false =>
      obtain ⟨n, hn, rfl⟩ := List.mem_iff_getElem.mp hc
      refine .of_seeTo? fun e => ?_
      have herrand := h (.errand n e)
      simpa [Ready, hs, hn] using herrand

/-- The steps that can be taken are no more than the work left. -/
theorem length_le_of_along_ready {config : ServiceConfig} {moves later : List Move}
    (h : (play { config } moves).Along Ready later) :
    later.length + ((play { config } moves).play later).workLeft ≤
      (play { config } moves).workLeft := by
  induction later generalizing moves with
  | nil => exact Nat.le_of_eq (Nat.zero_add _)
  | cons m later ih =>
    have hless := workLeft_ready h.1
    have hrest := h.2
    rw [← play_concat] at hless hrest
    have hlength := ih hrest
    rw [play_cons, ← play_concat, List.length_cons]
    omega

/-- The steps that can be taken lead to where none can be taken. -/
theorem exists_along_ready (config : ServiceConfig) (moves : List Move) :
    ∃ later, (play { config } moves).Along Ready later ∧
      ∀ m, ¬((play { config } moves).play later).Ready m := by
  generalize hn : (play { config } moves).workLeft = n
  induction n using Nat.strong_induction_on generalizing moves with
  | _ n ih =>
    by_cases hready : ∃ m, (play { config } moves).Ready m
    · obtain ⟨m, hm⟩ := hready
      have hless := workLeft_ready hm
      rw [← play_concat] at hless
      obtain ⟨later, halong, hdone⟩ := ih _ (hn ▸ hless) (moves ++ [m]) rfl
      rw [play_concat] at halong hdone
      exact ⟨m :: later, ⟨hm, halong⟩, hdone⟩
    · exact ⟨[], trivial, fun m hm => hready ⟨m, hm⟩⟩

theorem move_of_not_ready (hown : m.isOwn = true) (h : ¬b.Ready m) : b.move m = b := by
  cases m with
  | act | wait => cases hown
  | loop =>
    rcases b.move_loop with heq | ⟨hs, hw, _⟩
    · exact heq
    · exact absurd ⟨hs, hw⟩ h
  | errand n e =>
    cases hs : b.queues.stopped with
    | true => exact if_pos hs
    | false =>
      have hnone : ∀ c, b.roster[n]? = some c → (c.seeTo? b.context e).getD c = id c := by
        intro c hc
        have hsee : c.seeTo? b.context e = none := by simpa [Ready, hs, hc] using h
        rw [hsee]
        rfl
      rw [move_errand_of_running hs, seeToOne, modify_congr hnone, List.modify_id]

/-- Moves for which nothing is ready can be left out. -/
theorem exists_ready_of_own {later : List Move} (hown : ∀ m ∈ later, m.isOwn = true) (b : Bridge) :
    ∃ steps, b.Along Ready steps ∧ b.play later = b.play steps := by
  induction later generalizing b with
  | nil => exact ⟨[], trivial, rfl⟩
  | cons m later ih =>
    have hm := hown m List.mem_cons_self
    obtain ⟨steps, halong, heq⟩ := ih (fun m' hm' => hown m' (List.mem_cons_of_mem _ hm')) (b.move m)
    by_cases hready : b.Ready m
    · exact ⟨m :: steps, ⟨hready, halong⟩, heq⟩
    · rw [move_of_not_ready hm hready] at halong heq
      exact ⟨steps, halong, by rw [play_cons, move_of_not_ready hm hready, heq]⟩

theorem AtRest.not_ready (h : b.AtRest) (m : Move) : ¬b.Ready m := by
  intro hready
  have hown := hready.isOwn
  cases m with
  | act | wait => cases hown
  | loop =>
    have hwake := hready.2
    rw [h.wake] at hwake
    cases hwake
  | errand n e =>
    obtain ⟨c, c', hc, hsee⟩ := hready.exists_seeTo?
    rw [Connection.step?_eq_none_iff.mp (h.still c (List.mem_of_getElem? hc)) e] at hsee
    cases hsee

/-- To settle is to take steps until none can be taken. -/
theorem exists_ready_settle {config : ServiceConfig} {moves : List Move}
    (hrunning : (play { config } moves).queues.stopped = false) :
    (∃ steps, (play { config } moves).Along Ready steps ∧
      (play { config } moves).settle = (play { config } moves).play steps) ∧
    ∀ m, ¬(play { config } moves).settle.Ready m := by
  obtain ⟨own, hown, _, hsettle⟩ := exists_own_settle (play { config } moves)
  obtain ⟨steps, halong, heq⟩ := exists_ready_of_own hown (play { config } moves)
  exact ⟨⟨steps, halong, hsettle.trans heq⟩,
    (atRest_settle (wired_play config moves) hrunning).not_ready⟩

end Bridge

open Bridge in
/-- From every state that is reached, in whatever order, the loop and the drivers can take only finitely many
steps in no time, no more than the work left there. However they go on, they come to where no step can be
taken, and there the bridge is quiescent: no wake-up is stored, no open connection has a permit or anything
to take in, and no timer is past its deadline. As long as the service runs, to settle is to take such steps
until none can be taken. Pings that follow each other without any time between are no exception: a driver
that is to send them breaks down first. -/
theorem settling_terminates (config : ServiceConfig) (moves : List Move) :
    let b := play { config } moves
    (∀ steps, b.Along Ready steps → steps.length ≤ b.workLeft) ∧
    (∀ steps, b.Along Ready steps →
      ∃ rest, b.Along Ready (steps ++ rest) ∧ ∀ m, ¬(b.play (steps ++ rest)).Ready m) ∧
    (∀ steps, b.Along Ready steps → (∀ m, ¬(b.play steps).Ready m) →
      (b.play steps).Quiescent) ∧
    (b.queues.stopped = false →
      (∃ steps, b.Along Ready steps ∧ b.settle = b.play steps) ∧ ∀ m, ¬b.settle.Ready m) := by
  intro b
  refine ⟨fun steps h => ?_, fun steps h => ?_, fun steps _ hdone => ?_, exists_ready_settle⟩
  · exact Nat.le_of_add_right_le (length_le_of_along_ready h)
  · have hjoin : b.play steps = play { config } (moves ++ steps) := (play_append _ _ _).symm
    obtain ⟨rest, halong, hdone⟩ := exists_along_ready config (moves ++ steps)
    rw [← hjoin] at halong hdone
    rw [← play_append] at hdone
    exact ⟨rest, along_append.mpr ⟨h, halong⟩, hdone⟩
  · have hstanding := fun c hc => (wired_play config (moves ++ steps) c hc).1
    rw [play_append] at hstanding
    exact quiescent_of_not_ready hstanding hdone

/-- Text and audio wait on an open connection, with something of the far end and a ping that is due. -/
def backlogged : List Move :=
  laden ++ [.wait 40000000000]

theorem settling_terminates_backlogged :
    (∀ steps, (Bridge.play { config := {} } backlogged).Along Bridge.Ready steps →
      steps.length ≤ 12) ∧
    ∃ steps, (Bridge.play { config := {} } backlogged).Along Bridge.Ready steps ∧
      ((Bridge.play { config := {} } backlogged).play steps).Quiescent := by
  have hwork : (Bridge.play { config := {} } backlogged).workLeft = 12 := by decide +kernel
  obtain ⟨hfinite, hends, hquiescent, -⟩ := settling_terminates {} backlogged
  obtain ⟨rest, halong, hdone⟩ := hends [] trivial
  exact ⟨fun steps h => hwork ▸ hfinite steps h, rest, halong, hquiescent rest halong hdone⟩

end VoiceBridge
