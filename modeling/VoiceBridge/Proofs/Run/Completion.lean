import Mathlib.Data.List.Induction
import VoiceBridge.Proofs.Run.Clock
import VoiceBridge.Proofs.Run.WakeUp

/-!
# Who waits for the end of a connection

Whoever closes a connection may wait for its end. While the service runs, all who wait are told by the
event that ends the connection, or let go of by a driver that breaks down; a shutdown lets go of them, be
it with the driver, be it with the request to connect that nobody will take up.

A close can still be accepted after the shutdown, or after the driver was cut off, and who waits from then
on is in nobody's books: they are let go of only with the handle. `Promise` has one constructor for each way
to stand.
-/

namespace VoiceBridge

namespace Connection

variable {c c' : Connection} {q q' : Requests} {late stopped stopped' : Bool} {i : Nat}

/-- How one who waits stands. `late` says that they came when nobody was left to end the connection. -/
inductive Promise (late stopped : Bool) (c : Connection) : Wait → Prop
  | kept {o : TerminalOutcome} (outcome : c.outcome = some o) : Promise late stopped c (.resolved o)
  /-- A driver is at work, or the request for one is queued. -/
  | expected (running : stopped = false) (early : late = false) (outcome : c.outcome = none)
      (ahead : c.isDriven = true ∨ c.state = .idle ∧ c.connectRequested = true ∧ c.held = true) :
      Promise late stopped c .pending
  | letGo (outcome : c.outcome = none) (undriven : c.isDriven = false)
      (cause : late = false ∧ (stopped = true ∨ c.phase = .over) ∨ c.held = false) :
      Promise late stopped c .abandoned
  /-- Nobody is left to keep the promise or to break it. -/
  | stranded (left : stopped = true ∨ c.phase = .over) (tardy : late = true) (outcome : c.outcome = none)
      (undriven : c.isDriven = false) (held : c.held = true) : Promise late stopped c .pending

/-- How the `i`-th who waits stands. -/
def Pledged (late stopped : Bool) (i : Nat) (c : Connection) : Prop :=
  ∃ w, c.waits[i]? = some w ∧ c.Promise late stopped w

/-- Nothing changes for those who wait. -/
theorem Pledged.keep (h : c.Pledged late stopped i) (hwaits : c.waits <+: c'.waits)
    (houtcome : c'.outcome = c.outcome) (hphase : c'.phase = c.phase)
    (hheld : c'.held = c.held)
    (hahead : stopped = false → c.state = .idle → c.connectRequested = true →
      c'.state = .idle ∧ c'.connectRequested = true) : c'.Pledged late stopped i := by
  obtain ⟨w, hw, hpromise⟩ := h
  have hdriven : c'.isDriven = c.isDriven := by simp [isDriven, hphase]
  have hw' : c'.waits[i]? = some w := by
    obtain ⟨more, hmore⟩ := hwaits
    rw [← hmore, List.getElem?_append_left (List.getElem?_eq_some_iff.mp hw).1, hw]
  refine ⟨w, hw', ?_⟩
  cases hpromise with
  | kept outcome => exact .kept (houtcome.trans outcome)
  | expected running early outcome ahead =>
    refine .expected running early (houtcome.trans outcome) ?_
    rcases ahead with hd | ⟨hs, hr, hh⟩
    · exact .inl (hdriven.trans hd)
    · obtain ⟨hs', hr'⟩ := hahead running hs hr
      exact .inr ⟨hs', hr', hheld.trans hh⟩
  | letGo outcome undriven cause =>
    exact .letGo (houtcome.trans outcome) (hdriven.trans undriven) (hphase ▸ hheld ▸ cause)
  | stranded left tardy outcome undriven held =>
    exact .stranded (hphase ▸ left) tardy (houtcome.trans outcome) (hdriven.trans undriven)
      (hheld.trans held)

/-! ### Calls -/

/-- A call that lets go of nothing and takes back no request. -/
theorem Pledged.frame (h : c.Pledged late q.stopped i) (hf : CallFrame c q c' q')
    (hwaits : c'.waits = c.waits) (hheld : c'.held = c.held)
    (hrequested : q.stopped = false → c.connectRequested = true → c'.connectRequested = true) :
    c'.Pledged late q'.stopped i := by
  rw [hf.stopped]
  refine h.keep (hwaits ▸ List.prefix_rfl) hf.outcome hf.phase hheld
    fun hrunning hidle hr => ⟨?_, hrequested hrunning hr⟩
  rcases hf.state with hsame | ⟨hconn, _⟩
  · exact hsame.trans hidle
  · rw [hidle] at hconn
    cases hconn

theorem Pledged.connect (h : c.Pledged late q.stopped i) :
    (c.connect q).2.1.Pledged late (c.connect q).2.2.stopped i := by
  obtain ⟨_, heq⟩ := connect_effect c q
  refine h.frame (.connect c q) (by rw [heq]) (by rw [heq]) fun hrunning hr => ?_
  unfold Connection.connect
  split
  · exact hr
  · rw [enqueue_of_running hrunning]

theorem Pledged.close (h : c.Pledged late q.stopped i) :
    (c.close q).2.1.Pledged late (c.close q).2.2.stopped i := by
  obtain ⟨_, _, heq⟩ := close_effect c q
  exact h.frame (.close c q) (by rw [heq]) (by rw [heq]) fun _ hr => by rw [heq]; exact hr

theorem Pledged.finish (h : c.Pledged late q.stopped i) :
    (c.finish q).2.1.Pledged late (c.finish q).2.2.stopped i := by
  rcases finish_effect c q with ⟨_, heq⟩ | ⟨_, _, heq⟩ <;>
    exact h.frame (.finish c q) (by rw [heq]) (by rw [heq]) fun _ hr => by rw [heq]; exact hr

theorem Pledged.queueText (h : c.Pledged late q.stopped i) (text : String) :
    (c.queueText text q).2.1.Pledged late (c.queueText text q).2.2.stopped i := by
  rcases queueText_effect c text q with ⟨_, heq⟩ | ⟨_, _, heq⟩ <;>
    exact h.frame (.queueText c text q) (by rw [heq]) (by rw [heq]) fun _ hr => by rw [heq]; exact hr

theorem Pledged.subscribed (h : c.Pledged late stopped i) :
    c.subscribed.Pledged late stopped i :=
  h.keep (List.prefix_append _ _) rfl rfl rfl fun _ hs hr => ⟨hs, hr⟩

/-- All who still wait are let go of. -/
theorem Pledged.abandon (h : c.Pledged late stopped i) (hwaits : c'.waits = c.abandonWaits.waits)
    (houtcome : c'.outcome = c.outcome) (hundriven : c'.isDriven = false)
    (hcause : late = false ∧ (stopped' = true ∨ c'.phase = .over) ∨ c'.held = false) :
    c'.Pledged late stopped' i := by
  obtain ⟨w, hw, hpromise⟩ := h
  have hw' : c'.waits[i]? = some (if w = .pending then .abandoned else w) := by
    rw [hwaits, abandonWaits]
    simp [hw]
  refine ⟨_, hw', ?_⟩
  cases hpromise with
  | kept outcome => exact .kept (houtcome.trans outcome)
  | expected _ _ outcome | letGo outcome | stranded _ _ outcome =>
    exact .letGo (houtcome.trans outcome) hundriven hcause

/-- Who waits for a driver to be gone is let go of with it. -/
theorem Pledged.driverGone (h : c.Pledged late stopped i) (hd : c.isDriven = true) :
    c.driverGone.Pledged late stopped' i := by
  obtain ⟨w, hw, hpromise⟩ := h
  have habandon (early : late = false) : c.driverGone.Pledged late stopped' i :=
    Pledged.abandon ⟨w, hw, hpromise⟩ rfl rfl rfl (.inl ⟨early, .inr rfl⟩)
  cases hpromise with
  | kept outcome =>
    refine ⟨.resolved _, ?_, .kept outcome⟩
    simp [Connection.driverGone, abandonWaits, hw]
  | expected _ early => exact habandon early
  | letGo _ undriven | stranded _ _ _ undriven =>
    rw [hd] at undriven
    cases undriven

/-- Who waits where no driver is at work is let go of with the handle. -/
theorem Pledged.drop (h : c.Pledged late stopped i) : c.dropHandle.Pledged late stopped i := by
  cases hd : c.isDriven with
  | true =>
    have heq : c.dropHandle = { c with held := false } := if_pos hd
    obtain ⟨w, hw, hpromise⟩ := h
    rw [heq]
    refine ⟨w, hw, ?_⟩
    cases hpromise with
    | kept outcome => exact .kept outcome
    | expected running early outcome => exact .expected running early outcome (.inl hd)
    | letGo _ undriven | stranded _ _ _ undriven =>
      rw [hd] at undriven
      cases undriven
  | false =>
    have heq : c.dropHandle = { c with held := false }.abandonWaits :=
      if_neg (by rw [Bool.not_eq_true]; exact hd)
    rw [heq]
    exact h.abandon rfl rfl hd (.inr rfl)

theorem pledged_kept (late : Bool) (i : Nat) :
    KeptByCalls (fun c q => c.Pledged late q.stopped i) (fun c q => c.Pledged late q.stopped i) where
  connect h := h.connect
  close h := h.close
  subscribe h := h.subscribed
  finish h := h.finish
  queueText s h := h.queueText s
  queueHeld s h := h.queueText s
  warn _ h := h.keep List.prefix_rfl rfl rfl rfl fun _ hs hr => ⟨hs, hr⟩
  drop h := h.drop
  hold h := h
  write {c q} chunk h := by
    obtain ⟨_, _, heq⟩ := writeAudio_effect c chunk
    exact h.frame (.writeAudio c chunk q) (by rw [heq]) (by rw [heq]) fun _ hr => by rw [heq]; exact hr
  commit _ _ h := h.keep List.prefix_rfl rfl rfl rfl fun _ hs hr => ⟨hs, hr⟩
  release {c q} h := by
    obtain ⟨_, heq⟩ := releaseAudio_effect c q
    exact h.frame (.releaseAudio c q) (by rw [heq]) (by rw [heq]) fun _ hr => by rw [heq]; exact hr

/-! ### The loop, the driver and the shutdown -/

theorem Progress.waits {ctx : LoopContext} (h : Progress ctx c c') :
    (c'.waits = c.waits ∧ c'.outcome = c.outcome ∧ c'.isDriven = true) ∨
      (∃ o, c'.waits = (c.resolveWaits o).waits ∧ c'.outcome = some o) ∨ c' = c.driverGone := by
  cases h with
  | refused | ended | expired => exact .inr (.inl ⟨_, rfl, rfl⟩)
  | lost log phase attempt =>
    refine .inr (.inl ⟨_, ?_, rfl⟩)
    cases attempt <;> rfl
  | sent log phase attempt =>
    refine .inl ?_
    cases attempt <;> exact ⟨rfl, rfl, by simp [Connection.isDriven, turned, phase]⟩
  | spent phase => exact .inl ⟨rfl, rfl, by simp [Connection.isDriven, phase]⟩
  | quiet log phase => exact .inl ⟨rfl, rfl, by simp [Connection.isDriven, turned, phase]⟩
  | broken => exact .inr (.inr rfl)
  | _ => exact .inl ⟨rfl, rfl, rfl⟩

/-- A driver keeps on, or keeps the promise, or lets go of it. -/
theorem Pledged.progress {ctx : LoopContext} (h : c.Pledged late false i) (hp : Progress ctx c c')
    (hstanding : c.Standing false) : c'.Pledged late false i := by
  have hdriven := hp.isDriven
  have houtcome := hstanding.outcome_of_isDriven hdriven
  rcases hp.waits with ⟨hwaits, hsame, hd⟩ | ⟨o, hwaits, ho⟩ | rfl
  · obtain ⟨w, hw, hpromise⟩ := h
    refine ⟨w, hwaits ▸ hw, ?_⟩
    cases hpromise with
    | kept outcome => exact .kept (hsame.trans outcome)
    | expected running early => exact .expected running early (hsame.trans houtcome) (.inl hd)
    | letGo _ undriven | stranded _ _ _ undriven =>
      rw [hdriven] at undriven
      cases undriven
  · obtain ⟨w, hw, hpromise⟩ := h
    cases hpromise with
    | kept outcome =>
      rw [houtcome] at outcome
      cases outcome
    | expected =>
      refine ⟨.resolved o, ?_, .kept ho⟩
      rw [hwaits, resolveWaits]
      simp [hw]
    | letGo _ undriven | stranded _ _ _ undriven =>
      rw [hdriven] at undriven
      cases undriven
  · exact h.driverGone hdriven

theorem Pledged.takenUp {b : Bridge} (h : c.Pledged late false i) (hstanding : c.Standing false) :
    (b.takenUp c).Pledged late false i := by
  obtain ⟨d, _, _, heq, _, hcases⟩ := b.takenUp_cases c
  rw [heq]
  rcases hcases with rfl | ⟨halive, hidle, rfl⟩
  · exact h.keep List.prefix_rfl rfl rfl rfl fun _ hs hr => ⟨hs, hr⟩
  · have hover : c.phase ≠ .over := by simp [(hstanding.of_idle hidle).1]
    obtain ⟨w, hw, hpromise⟩ := h
    refine ⟨w, hw, ?_⟩
    cases hpromise with
    | kept outcome => exact .kept outcome
    | expected running early outcome => exact .expected running early outcome (.inl rfl)
    | letGo _ undriven cause =>
      rcases cause with ⟨_, hstopped | hgone⟩ | hheld
      · cases hstopped
      · exact absurd hgone hover
      · simp [isAlive, hheld, undriven] at halive
    | stranded left =>
      rcases left with hstopped | hgone
      · cases hstopped
      · exact absurd hgone hover

/-- A request to connect waits only for a connection that is idle. -/
def Unclaimed (c : Connection) (q : Requests) : Prop := c.id ∈ q.connects → c.state = .idle

theorem connects_requestWrite (c : Connection) (q : Requests) :
    (c.requestWrite q).2.2.connects = q.connects := by
  unfold requestWrite WorkQueues.enqueue
  cases c.writeQueued <;> cases q.stopped <;> rfl

theorem Unclaimed.frame (h : c.Unclaimed q) (hf : CallFrame c q c' q') (hq : q'.connects = q.connects) :
    c'.Unclaimed q' := by
  intro hin
  rw [hf.id, hq] at hin
  have hidle := h hin
  rcases hf.state with hsame | ⟨hconn, _⟩
  · exact hsame.trans hidle
  · rw [hidle] at hconn
    cases hconn

theorem unclaimed_kept : KeptByCalls Unclaimed Unclaimed where
  connect {c q} h := by
    unfold Connection.connect
    split
    · exact h
    · rename_i hidle
      have hidle : c.state = .idle := not_not.mp hidle
      split <;> exact fun _ => hidle
  close {c q} h := by
    refine h.frame (.close c q) ?_
    unfold Connection.close WorkQueues.enqueue
    split
    · split <;> rfl
    · rfl
    · cases q.stopped <;> rfl
    all_goals rfl
  subscribe h := h
  finish {c q} h := by
    refine h.frame (.finish c q) ?_
    unfold Connection.finish
    split
    · rfl
    · exact connects_requestWrite _ q
  queueText {c q} s h := by
    refine h.frame (.queueText c s q) ?_
    unfold Connection.queueText
    split
    all_goals first | rfl | exact connects_requestWrite _ q
  queueHeld {c q} s h := by
    refine h.frame (.queueText c s q) ?_
    unfold Connection.queueText
    split
    all_goals first | rfl | exact connects_requestWrite _ q
  warn _ h := h
  drop {c q} h := h.frame (.dropHandle c q) rfl
  hold h := h
  write {c q} chunk h := h.frame (.writeAudio c chunk q) rfl
  commit _ _ h := h
  release {c q} h := by
    refine h.frame (.releaseAudio c q) ?_
    unfold Connection.releaseAudio
    split
    · exact connects_requestWrite c q
    · rfl

/-- The shutdown lets go of everybody who still waits for a driver or for its end. -/
theorem Pledged.shutdown (h : c.Pledged late false i) (hqueued : c.Tracked q) (hidle : c.Unclaimed q)
    (hstanding : c.Standing false) :
    (if c.isDriven then c.driverGone else if c.id ∈ q.connects then Bridge.letGo c else c).Pledged
      late true i := by
  cases hd : c.isDriven with
  | true => exact h.driverGone hd
  | false =>
    obtain ⟨w, hw, hpromise⟩ := h
    by_cases hin : c.id ∈ q.connects ∧ c.isAlive = true
    · have hlet : Bridge.letGo c = c.abandonWaits := if_pos hin.2
      have hover : c.phase ≠ .over := by simp [(hstanding.of_idle (hidle hin.1)).1]
      simp only [hin.1, if_true, hlet, Bool.false_eq_true, if_false]
      have habandon (hcause : late = false ∨ c.held = false) : c.abandonWaits.Pledged late true i :=
        Pledged.abandon ⟨w, hw, hpromise⟩ rfl rfl hd (hcause.imp_left fun early => ⟨early, .inl rfl⟩)
      cases hpromise with
      | kept outcome => exact ⟨.resolved _, by simp [abandonWaits, hw], .kept outcome⟩
      | expected _ early => exact habandon (.inl early)
      | letGo _ _ cause => exact habandon (cause.imp_left And.left)
      | stranded left =>
        rcases left with hstopped | hgone
        · cases hstopped
        · exact absurd hgone hover
    · have hsame : (if c.id ∈ q.connects then Bridge.letGo c else c) = c := by
        unfold Bridge.letGo
        split
        · rename_i hmem
          exact if_neg fun halive => hin ⟨hmem, halive⟩
        · rfl
      simp only [hsame, Bool.false_eq_true, if_false]
      refine ⟨w, hw, ?_⟩
      cases hpromise with
      | kept outcome => exact .kept outcome
      | letGo outcome undriven cause =>
        exact .letGo outcome undriven (cause.imp_left (And.imp_right fun _ => .inl rfl))
      | stranded _ tardy outcome undriven held =>
        exact .stranded (.inl rfl) tardy outcome undriven held
      | expected _ _ _ ahead =>
        -- The request for a driver would be queued and the handle held.
        rcases ahead with hdriven | ⟨hs, hr, hh⟩
        · rw [hd] at hdriven
          cases hdriven
        · exact absurd ⟨hqueued.connects hs hr hh, by simp [isAlive, hh]⟩ hin

/-! ### The beginning and the end of a wait -/

theorem waits_subscribed (c : Connection) :
    c.subscribed.waits = c.waits ++ [(c.outcome.map Wait.resolved).getD .pending] := by
  unfold subscribed
  cases c.outcome <;> rfl

/-- An accepted close of a connection without an outcome has a driver to apply it, or one is asked for,
as long as the service runs and the driver has not been cut off. -/
theorem ahead_of_close (hstanding : c.Standing false) (houtcome : c.outcome = none) (hcut : ¬c.CutOff)
    (hok : (c.close q).1 = .ok ()) :
    c.isDriven = true ∨ c.state = .idle ∧ c.connectRequested = true := by
  have hsome {o : TerminalOutcome} (outcome : c.outcome = some o) : False := by
    rw [houtcome] at outcome
    cases outcome
  cases hstanding with
  | fresh _ state =>
    rw [close, state] at hok
    cases hr : c.connectRequested with
    | true => exact .inr ⟨state, rfl⟩
    | false => simp [hr] at hok
  | dialling _ phase | connected _ phase | disconnecting _ phase =>
    exact .inl (by simp [isDriven, phase])
  | failed _ _ outcome | dropped _ _ outcome | closed _ _ outcome => exact (hsome outcome).elim
  | cutDialling stopped => cases stopped
  | cutLive phase => exact absurd ⟨phase, houtcome⟩ hcut

/-- A close that is accepted begins a wait. -/
theorem pledged_closeWithCompletion (hstanding : c.Standing q.stopped) (hheld : c.held = true)
    (hok : (c.closeWithCompletion q).1 = .ok ()) :
    (c.closeWithCompletion q).2.1.Pledged (q.stopped || decide c.CutOff) q.stopped c.waits.length := by
  obtain ⟨hclose, hafter⟩ : (c.close q).1 = .ok () ∧
      (c.closeWithCompletion q).2.1 = (c.close q).2.1.subscribed := by
    rcases closeWithCompletion_cases c q with ⟨hclose, hafter⟩ | ⟨⟨e, hrefused⟩, hafter⟩
    · exact ⟨hclose, by rw [hafter]⟩
    · rw [hafter, hrefused] at hok
      cases hok
  rw [hafter]
  have hframe := CallFrame.close c q
  obtain ⟨_, _, heffect⟩ := close_effect c q
  have hwaits : (c.close q).2.1.waits = c.waits := by rw [heffect]
  have hdriven : (c.close q).2.1.isDriven = c.isDriven := by simp [isDriven, hframe.phase]
  refine ⟨(c.outcome.map Wait.resolved).getD .pending, ?_, ?_⟩
  · rw [waits_subscribed, hwaits, hframe.outcome]
    simp
  cases houtcome : c.outcome with
  | some o => exact .kept (hframe.outcome.trans houtcome)
  | none =>
    have hnone : (c.close q).2.1.outcome = none := hframe.outcome.trans houtcome
    have hheld' : (c.close q).2.1.held = true := by rw [heffect]; exact hheld
    by_cases hleft : q.stopped = true ∨ c.CutOff
    · have hundriven : c.isDriven = false := by
        rcases hleft with hs | hcut
        · by_contra hd
          rw [Bool.not_eq_false] at hd
          rw [hstanding.running_of_isDriven hd] at hs
          cases hs
        · simp [isDriven, hcut.phase]
      have hover : q.stopped = true ∨ (c.close q).2.1.phase = .over :=
        hleft.imp_right fun hcut => hframe.phase.trans hcut.phase
      exact .stranded hover (by simpa using hleft) hnone (hdriven.trans hundriven) hheld'
    · obtain ⟨hs, hcut⟩ := not_or.mp hleft
      rw [Bool.not_eq_true] at hs
      rw [hs] at hstanding
      refine .expected hs (by simp [hs, hcut]) hnone ?_
      rcases ahead_of_close hstanding houtcome hcut hclose with hd | ⟨hidle, hr⟩
      · exact .inl (hdriven.trans hd)
      · refine .inr ⟨?_, by rw [heffect]; exact hr, hheld'⟩
        rcases hframe.state with hsame | ⟨hconn, _⟩
        · exact hsame.trans hidle
        · rw [hidle] at hconn
          cases hconn

/-- The outcome is that of the event that ended the connection. -/
theorem Standing.outcome_eq_some_iff (h : c.Standing stopped) (o : TerminalOutcome) :
    c.outcome = some o ↔ ∃ e ∈ c.events, e.outcome? = some o := by
  have hserved {events : List EventKind} (hs : Served events) :
      ∀ e ∈ events, e.outcome? = none := fun e he =>
    Option.not_isSome_iff_eq_none.mp (by simpa [EventKind.isTerminal] using hs.not_isTerminal e he)
  cases h with
  | fresh _ _ outcome events | dialling _ _ _ outcome events | cutDialling _ _ _ outcome events =>
    simp [outcome, events]
  | connected _ _ _ outcome events | disconnecting _ _ _ outcome events
  | cutLive _ _ outcome events =>
    have hnone := hserved events
    simp only [outcome, reduceCtorEq, false_iff]
    rintro ⟨e, he, ho⟩
    rw [hnone e he] at ho
    cases ho
  | failed _ _ outcome events => simp [outcome, events, EventKind.outcome?]
  | dropped _ _ outcome events served | closed _ _ outcome events served =>
    have hnone := hserved served
    rw [outcome, events]
    constructor
    · rintro ⟨⟩
      exact ⟨_, List.mem_append_right _ List.mem_cons_self, rfl⟩
    · rintro ⟨e, he, ho⟩
      rcases List.mem_append.mp he with he | he
      · rw [hnone e he] at ho
        cases ho
      · rw [List.mem_singleton.mp he] at ho
        exact ho

theorem Standing.outcome_eq_none_iff (h : c.Standing stopped) :
    c.outcome = none ↔ ∀ e ∈ c.events, e.outcome? = none := by
  have hsome := h.outcome_eq_some_iff
  constructor
  · intro hnone e he
    by_contra hne
    obtain ⟨o, ho⟩ := Option.ne_none_iff_exists'.mp hne
    rw [(hsome o).mpr ⟨e, he, ho⟩] at hnone
    cases hnone
  · intro hall
    by_contra hne
    obtain ⟨o, ho⟩ := Option.ne_none_iff_exists'.mp hne
    obtain ⟨e, he, hterminal⟩ := (hsome o).mp ho
    rw [hall e he] at hterminal
    cases hterminal

/-- What a promise has come to once the service is stopped. -/
theorem Promise.settled {w : Wait} (h : c.Promise late true w) (hstanding : c.Standing true) :
    (∀ o, w = .resolved o ↔ ∃ e ∈ c.events, e.outcome? = some o) ∧
      (w = .pending ↔ late = true ∧ c.held = true ∧ ∀ e ∈ c.events, e.outcome? = none) ∧
      (w = .abandoned ↔ (late = false ∨ c.held = false) ∧ ∀ e ∈ c.events, e.outcome? = none) := by
  simp only [← hstanding.outcome_eq_some_iff, ← hstanding.outcome_eq_none_iff]
  cases h with
  | kept outcome => simp [outcome]
  | expected running => cases running
  | letGo outcome _ cause =>
    rcases cause with ⟨hearly, _⟩ | hheld
    · simp [outcome, hearly]
    · simp [outcome, hheld]
  | stranded _ tardy outcome _ held => simp [outcome, tardy, held]

end Connection

namespace Bridge

/-- Nothing but the shutdown stops the service. -/
theorem stopped_move_of_ne {b : Bridge} {m : Move}
    (h : m = .act .shutdown → b.queues.stopped = true) :
    (b.move m).queues.stopped = b.queues.stopped := by
  rcases queues_cases b m with ⟨id, call, rfl⟩ | ⟨rfl, hs, hw⟩ | ⟨rfl, hs⟩ | hq
  · exact (asked_move_call b id call).stopped
  · rw [queues_move_loop hs hw]
  · rw [h rfl] at hs
    cases hs
  · rw [hq]

/-- A request to connect waits only for a connection that is idle, after every move. -/
theorem unclaimed_move {b : Bridge} {m : Move} {c c' : Connection}
    (hstanding : c.Standing b.queues.stopped) (hc : b.find? c.id = some c) (hchange : Change b c m c')
    (h : c.Unclaimed b.queues) : c'.Unclaimed (b.move m).queues := by
  cases hchange with
  | call held =>
    rw [queues_move_held hc held]
    exact Connection.unclaimed_kept.perform _ h
  | unheld held =>
    rw [queues_move_unheld hc held]
    exact h
  | other ne => exact fun hin => h ((asked_move_call b _ _).newConnects _ (Ne.symm ne) hin)
  | @far call =>
    obtain ⟨_, _, hfar⟩ := c.farCall_eq call
    rw [queues_move (by simp) (by simp) (by simp), hfar]
    exact h
  | takenUp running wake =>
    rw [queues_move_loop running wake]
    exact fun hin => (List.not_mem_nil hin).elim
  | progress running progress =>
    rw [queues_move (by simp) (by simp) (by simp)]
    intro hin
    rw [progress.id] at hin
    exact absurd (h hin) (hstanding.begun_of_isDriven progress.isDriven)
  | cut running =>
    have hq : (b.move (.act .shutdown)).queues = b.queues.stop.2 := by
      change b.shutdown.queues = _
      rw [shutdown_of_not_stopped running]
    rw [hq]
    exact fun hin => (List.not_mem_nil hin).elim
  | spared quiet asleep stopped =>
    rw [queues_move quiet asleep stopped]
    exact h

theorem unclaimed_play {config : ServiceConfig} {moves : List Move} {id : String} {c : Connection}
    (hc : (play { config } moves).find? id = some c) :
    c.Unclaimed (play { config } moves).queues :=
  holds_of_play (P := fun b c => c.Unclaimed b.queues)
    (fun _ hc _ hstanding _ hchange h =>
      unclaimed_move hstanding (by rwa [id_of_find? hc]) hchange h)
    (fun hcreate _ => (Unreached.of_create hcreate).state) config moves (along_true _ _) hc

theorem pledged_move {b : Bridge} {m : Move} {c c' : Connection} {id : String} {late : Bool} {i : Nat}
    (hb : ∀ c ∈ b.roster, c.Standing b.queues.stopped)
    (hvigilant : b.queues.stopped = false → b.Vigilant) (hidle : c.Unclaimed b.queues)
    (hc : b.find? id = some c) (hc' : (b.move m).find? id = some c')
    (h : c.Pledged late b.queues.stopped i) : c'.Pledged late (b.move m).queues.stopped i := by
  have hstanding := hb c (List.mem_of_find?_eq_some hc)
  have hid := id_of_find? hc
  subst hid
  have hchange := change_of_find? hb hc hc'
  by_cases hshutdown : m = .act .shutdown ∧ b.queues.stopped = false
  · obtain ⟨rfl, hs⟩ := hshutdown
    have hfind := find?_shutdown_eq hs c.id
    rw [hc, Option.map_some] at hfind
    have hsame : (b.move (.act .shutdown)).find? c.id = b.shutdown.find? c.id := rfl
    rw [hsame, hfind] at hc'
    cases hc'
    rw [stopped_move_shutdown]
    rw [hs] at h hstanding
    exact h.shutdown ((hvigilant hs).watched c.id c hc).2.1 hidle hstanding
  · have hstopped : m = .act .shutdown → b.queues.stopped = true := by
      intro hm
      by_contra hs
      rw [Bool.not_eq_true] at hs
      exact hshutdown ⟨hm, hs⟩
    rw [stopped_move_of_ne hstopped]
    cases hchange with
    | @call call held =>
      have hkept := (Connection.pledged_kept late i).perform call h
      rwa [(Connection.CallFrame.perform c b.queues call).stopped] at hkept
    | unheld | other | spared => exact h
    | @far call =>
      obtain ⟨_, _, hfar⟩ := c.farCall_eq call
      rw [hfar]
      exact h.keep List.prefix_rfl rfl rfl rfl fun _ hs hr => ⟨hs, hr⟩
    | takenUp running =>
      rw [running] at h hstanding ⊢
      exact h.takenUp hstanding
    | progress running progress =>
      rw [running] at h hstanding ⊢
      exact h.progress progress hstanding
    | cut running => exact absurd ⟨rfl, running⟩ hshutdown

theorem pledged_play (config : ServiceConfig) (before : List Move) {c : Connection} {id : String}
    {late : Bool} {i : Nat} (hc : (Bridge.play { config } before).find? id = some c)
    (h : c.Pledged late (Bridge.play { config } before).queues.stopped i) (after : List Move) :
    ∃ c', (Bridge.play { config } (before ++ after)).find? id = some c' ∧
      c'.Pledged late (Bridge.play { config } (before ++ after)).queues.stopped i := by
  induction after using List.reverseRecOn with
  | nil => exact ⟨c, by rwa [List.append_nil], by rwa [List.append_nil]⟩
  | append_singleton after m ih =>
    obtain ⟨d, hd, hpledged⟩ := ih
    have hb := Connection.standing_kept.play config (before ++ after)
    obtain ⟨c', hc', _⟩ := find?_move_of_some hb hd m
    have hmove : Bridge.play { config } (before ++ (after ++ [m])) =
        (Bridge.play { config } (before ++ after)).move m := by
      rw [← List.append_assoc, play_concat]
    refine ⟨c', by rw [hmove]; exact hc', ?_⟩
    rw [hmove]
    exact pledged_move hb (vigilant_play config _) (unclaimed_play hd) hd hc' hpledged

/-- Who closes and waits stands in the books from then on. -/
theorem exists_pledged {config : ServiceConfig} {before : List Move} {id : String} {c : Connection}
    (hc : (Bridge.play { config } before).find? id = some c) (hheld : c.held = true)
    (hok : (c.closeWithCompletion (Bridge.play { config } before).queues).1 = .ok ())
    (after : List Move) :
    ∃ c', (Bridge.play { config }
        (before ++ .act (.call id .closeWithCompletion) :: after)).find? id = some c' ∧
      c'.Pledged ((Bridge.play { config } before).queues.stopped || decide c.CutOff)
        (Bridge.play { config }
          (before ++ .act (.call id .closeWithCompletion) :: after)).queues.stopped
        c.waits.length := by
  have hstanding := Connection.standing_kept.play config before c (List.mem_of_find?_eq_some hc)
  have hcall : Bridge.play { config } (before ++ [.act (.call id .closeWithCompletion)]) =
      (Bridge.play { config } before).move (.act (.call id .closeWithCompletion)) := by
    rw [Bridge.play_append]
    rfl
  have hsplit : before ++ .act (.call id .closeWithCompletion) :: after =
      (before ++ [.act (.call id .closeWithCompletion)]) ++ after := by simp
  have hfind := find?_call_held hc hheld .closeWithCompletion
  have hsame := (asked_move_call (Bridge.play { config } before) id .closeWithCompletion).stopped
  have hpledged := Connection.pledged_closeWithCompletion hstanding hheld hok
  rw [← hcall] at hfind hsame
  rw [hsplit]
  exact pledged_play config _ hfind (by rw [hsame]; exact hpledged) after

end Bridge

/-- What becomes of one who waits, once the service is stopped: they are told the outcome that was
announced, and otherwise let go of, but for those who came after the shutdown or after the driver was cut
off: these go on waiting as long as the handle is held. Within the reach of the clock no driver is cut off
before the shutdown. -/
theorem completion_after_shutdown (config : ServiceConfig) (before after : List Move) (id : String)
    (c : Connection) (hc : (Bridge.play { config } before).find? id = some c) (hheld : c.held = true)
    (hok : (c.closeWithCompletion (Bridge.play { config } before).queues).1 = .ok ())
    (hstopped : (Bridge.play { config }
      (before ++ .act (.call id .closeWithCompletion) :: after)).queues.stopped = true) :
    let b := Bridge.play { config } before
    let late := b.queues.stopped = true ∨ c.CutOff
    (b.ClockReaches c.config.profile → (late ↔ b.queues.stopped = true)) ∧
    ∃ c' w, (Bridge.play { config }
        (before ++ .act (.call id .closeWithCompletion) :: after)).find? id = some c' ∧
      c'.waits[c.waits.length]? = some w ∧
      (∀ o, w = .resolved o ↔ ∃ e ∈ c'.events, e.outcome? = some o) ∧
      (w = .pending ↔ late ∧ c'.held = true ∧ ∀ e ∈ c'.events, e.outcome? = none) ∧
      (w = .abandoned ↔ (¬late ∨ c'.held = false) ∧ ∀ e ∈ c'.events, e.outcome? = none) := by
  intro b late
  refine ⟨fun hreach => ⟨fun hlate => ?_, .inl⟩, ?_⟩
  · by_contra hs
    rw [Bool.not_eq_true] at hs
    refine Bridge.not_cutOff (List.mem_of_find?_eq_some hc) hs hreach (hlate.resolve_left ?_)
    simp [hs]
  · obtain ⟨c', hc', w, hw, hpromise⟩ := Bridge.exists_pledged hc hheld hok after
    rw [hstopped] at hpromise
    have hend := Connection.standing_kept.play config _ c' (List.mem_of_find?_eq_some hc')
    rw [hstopped] at hend
    have hlate : (b.queues.stopped || decide c.CutOff) = true ↔ late := by simp [late]
    have hsettled := hpromise.settled hend
    rw [← Bool.not_eq_true, hlate] at hsettled
    exact ⟨c', w, hc', hw, hsettled⟩

/-- The service is stopped while the wire is being opened. -/
def cutShort : List Move :=
  [.act (.create "a" { sessionId := "a", host := "far" } none), .act (.call "a" .connect), .loop,
    .act .shutdown]

/-- Who closes then waits in vain, however much time passes. -/
theorem completion_after_shutdown_cutShort :
    ∃ c', (Bridge.play { config := {} }
        (cutShort ++ [.act (.call "a" .closeWithCompletion), .loop, .errand 0 .dial, .wait 1])).find? "a" =
          some c' ∧
      c'.events = [] ∧ c'.waits[0]? = some .pending := by
  have hsome : ((Bridge.play { config := {} } cutShort).find? "a").isSome = true := by
    decide +kernel
  obtain ⟨c, hc⟩ := Option.isSome_iff_exists.mp hsome
  have hbefore : ∀ c ∈ (Bridge.play { config := {} } cutShort).roster,
      c.held = true ∧ c.waits.length = 0 ∧
        (c.closeWithCompletion (Bridge.play { config := {} } cutShort).queues).1 = .ok () := by
    decide +kernel
  have hlate : (Bridge.play { config := {} } cutShort).queues.stopped = true := by decide +kernel
  have hstopped : (Bridge.play { config := {} }
      (cutShort ++ [.act (.call "a" .closeWithCompletion), .loop, .errand 0 .dial,
        .wait 1])).queues.stopped = true := by decide +kernel
  have hafter : ∀ c ∈ (Bridge.play { config := {} }
      (cutShort ++ [.act (.call "a" .closeWithCompletion), .loop, .errand 0 .dial, .wait 1])).roster,
        c.held = true ∧ c.events = [] := by decide +kernel
  obtain ⟨hheld, hlength, hok⟩ := hbefore c (List.mem_of_find?_eq_some hc)
  obtain ⟨-, c', w, hc', hw, -, hpending, -⟩ :=
    completion_after_shutdown {} cutShort [.loop, .errand 0 .dial, .wait 1] "a" c hc hheld hok hstopped
  obtain ⟨hheld', hevents⟩ := hafter c' (List.mem_of_find?_eq_some hc')
  have hwaits : w = .pending := hpending.mpr ⟨.inl hlate, hheld', by simp [hevents]⟩
  rw [hlength, hwaits] at hw
  exact ⟨c', hc', hevents, hw⟩

end VoiceBridge
