import Mathlib.Data.List.Basic
import VoiceBridge.Bridge.WorkQueues

/-!
# The history of the work queues

Callers leave requests, the event loop waits and drains, and whoever ends the service stops the queues, in
any order. `run` makes a list of such calls and keeps its history, one event for each call.

What a single call does is said once for each of the things that can be asked of the queues: what a kind of
request loses is handed out by that call (`balance_perform`), and a wake-up is stored behind it if it stores
one or finds one stored and does not use it up (`wake_perform`). All else is by induction over the calls.
-/

namespace VoiceBridge

/-- What is asked of the work queues. -/
inductive QueueCall (α : Type) where
  | enqueue (kind : WorkKind) (item : α)
  | drain
  | wait
  | stop
  deriving Repr, DecidableEq

/-- A call with its answer. -/
inductive QueueEvent (α : Type) where
  | enqueued (kind : WorkKind) (item : α) (result : Except BridgeError Unit)
  | drained (batch : WorkBatch α)
  | waited (woken : Bool)
  | stopped (left : WorkBatch α)

variable {α : Type}

/-- What a batch holds of one kind. -/
def WorkBatch.items (b : WorkBatch α) : WorkKind → List α
  | .connect => b.connects
  | .disconnect => b.disconnects
  | .write => b.writes

namespace QueueEvent

/-- The call that the event is about. -/
def call : QueueEvent α → QueueCall α
  | enqueued kind item _ => .enqueue kind item
  | drained _ => .drain
  | waited _ => .wait
  | stopped _ => .stop

/-- The request of a kind that is accepted. -/
def accepted (kind : WorkKind) : QueueEvent α → List α
  | enqueued k item (.ok ()) => if k = kind then [item] else []
  | _ => []

/-- The requests of a kind that are handed out. -/
def handedOut (kind : WorkKind) : QueueEvent α → List α
  | drained batch | stopped batch => batch.items kind
  | _ => []

/-- A wake-up is stored: a request is accepted, or the queues are stopped. -/
def wakes : QueueEvent α → Bool
  | enqueued _ _ (.ok ()) | stopped _ => true
  | _ => false

/-- A wait uses up the stored wake-up. -/
def consumes : QueueEvent α → Bool
  | waited woken => woken
  | _ => false

end QueueEvent

/-- Each wait that uses up a wake-up comes right ahead of a drain. -/
def DrainsWhenWoken (history : List (QueueEvent α)) : Prop :=
  ∀ before after, history = before ++ .waited true :: after →
    ∃ batch rest, after = .drained batch :: rest

theorem DrainsWhenWoken.tail {e : QueueEvent α} {history : List (QueueEvent α)}
    (h : DrainsWhenWoken (e :: history)) : DrainsWhenWoken history :=
  fun before after heq => h (e :: before) after (congrArg (e :: ·) heq)

namespace WorkQueues

/-- What waits of one kind, oldest first. -/
def items (q : WorkQueues α) (kind : WorkKind) : List α := q.drain.1.items kind

/-- One call on the queues. -/
def perform (q : WorkQueues α) : QueueCall α → QueueEvent α × WorkQueues α
  | .enqueue kind item => (.enqueued kind item (q.enqueue kind item).1, (q.enqueue kind item).2)
  | .drain => (.drained q.drain.1, q.drain.2)
  | .wait => (.waited q.wait.1, q.wait.2)
  | .stop => (.stopped q.stop.1, q.stop.2)

/-- Calls one after the other, with their history. -/
def run (q : WorkQueues α) : List (QueueCall α) → List (QueueEvent α) × WorkQueues α
  | [] => ([], q)
  | call :: calls =>
    let (event, q) := q.perform call
    let (history, q) := q.run calls
    (event :: history, q)

theorem run_cons (q : WorkQueues α) (call : QueueCall α) (calls : List (QueueCall α)) :
    q.run (call :: calls) = ((q.perform call).1 :: ((q.perform call).2.run calls).1,
      ((q.perform call).2.run calls).2) := rfl

/-! ### One call -/

variable {q : WorkQueues α}

/-- Running queues accept every request. -/
theorem enqueue_eq_of_not_stopped (h : q.stopped = false) (kind : WorkKind) (item : α) :
    (q.enqueue kind item).1 = .ok () ∧ (q.enqueue kind item).2.wake = true ∧
      (q.enqueue kind item).2.stopped = false ∧
      ∀ k, (q.enqueue kind item).2.items k = q.items k ++ if kind = k then [item] else [] := by
  rw [enqueue, if_neg (by simp [h])]
  refine ⟨rfl, ?_, ?_, fun k => ?_⟩
  · cases kind <;> rfl
  · cases kind <;> exact h
  · cases kind <;> cases k <;> simp [items, drain, WorkBatch.items]

/-- What a call hands out comes from the front of what waited, and what it accepts goes to the end. -/
theorem balance_perform (q : WorkQueues α) (call : QueueCall α) (kind : WorkKind) :
    q.items kind ++ (q.perform call).1.accepted kind =
      (q.perform call).1.handedOut kind ++ (q.perform call).2.items kind := by
  cases call with
  | enqueue k item =>
    cases hs : q.stopped with
    | true => simp [perform, enqueue_of_stopped hs, QueueEvent.accepted, QueueEvent.handedOut]
    | false =>
      obtain ⟨hok, -, -, hitems⟩ := enqueue_eq_of_not_stopped hs k item
      simp [perform, hok, hitems, QueueEvent.accepted, QueueEvent.handedOut]
  | drain | stop =>
    have hempty : (⟨[], [], []⟩ : WorkBatch α).items kind = [] := by cases kind <;> rfl
    exact congrArg (q.items kind ++ ·) hempty.symm
  | wait => exact List.append_nil _

/-- A wake-up is stored if the call stores one, or does not use up the one it finds. -/
theorem wake_perform (q : WorkQueues α) (call : QueueCall α) :
    (q.perform call).2.wake =
      ((q.perform call).1.wakes || (q.wake && !(q.perform call).1.consumes)) := by
  cases call with
  | enqueue kind item =>
    cases hs : q.stopped with
    | true => simp [perform, enqueue_of_stopped hs, QueueEvent.wakes, QueueEvent.consumes]
    | false =>
      obtain ⟨hok, hwake, -⟩ := enqueue_eq_of_not_stopped hs kind item
      simp [perform, hok, hwake, QueueEvent.wakes]
  | drain => exact (Bool.and_true _).symm
  | wait => cases hw : q.wake <;> simp [perform, wait, hw, QueueEvent.wakes, QueueEvent.consumes]
  | stop => rfl

/-- Only a stop stops the queues, and nothing starts them again. -/
theorem stopped_perform (q : WorkQueues α) (call : QueueCall α) :
    (q.perform call).2.stopped = true ↔ q.stopped = true ∨ call = .stop := by
  cases call with
  | enqueue kind item =>
    cases hs : q.stopped with
    | true => simp [perform, enqueue_of_stopped hs, hs]
    | false => simp [perform, (enqueue_eq_of_not_stopped hs kind item).2.2.1]
  | stop => exact iff_of_true rfl (.inr rfl)
  | _ => simp [perform, drain, wait]

/-- Stopped queues are empty. -/
def Closed (q : WorkQueues α) : Prop := q.stopped = true → ∀ kind, q.items kind = []

theorem Closed.perform (h : q.Closed) (call : QueueCall α) : (q.perform call).2.Closed := by
  intro hs kind
  cases call with
  | enqueue k item =>
    have hstopped : q.stopped = true := by simpa using (stopped_perform q _).mp hs
    rw [WorkQueues.perform, enqueue_of_stopped hstopped]
    exact h hstopped kind
  | drain | stop => cases kind <;> rfl
  | wait => exact h hs kind

/-! ### Any number of calls -/

theorem map_call_run (q : WorkQueues α) (calls : List (QueueCall α)) :
    (q.run calls).1.map QueueEvent.call = calls := by
  induction calls generalizing q with
  | nil => rfl
  | cons call calls ih =>
    have hcall : (q.perform call).1.call = call := by cases call <;> rfl
    rw [run_cons, List.map_cons, hcall, ih]

/-- What was handed out and what waits are what waited before and what was accepted. -/
theorem balance_run (q : WorkQueues α) (calls : List (QueueCall α)) (kind : WorkKind) :
    q.items kind ++ (q.run calls).1.flatMap (·.accepted kind) =
      (q.run calls).1.flatMap (·.handedOut kind) ++ (q.run calls).2.items kind := by
  induction calls generalizing q with
  | nil => exact List.append_nil _
  | cons call calls ih =>
    rw [run_cons, List.flatMap_cons, List.flatMap_cons, ← List.append_assoc, balance_perform,
      List.append_assoc, ih, List.append_assoc]

theorem stopped_run (q : WorkQueues α) (calls : List (QueueCall α)) :
    (q.run calls).2.stopped = true ↔ q.stopped = true ∨ .stop ∈ calls := by
  induction calls generalizing q with
  | nil => simp [run]
  | cons call calls ih =>
    have hcall : call = .stop ↔ .stop = call := eq_comm
    rw [run_cons, ih, stopped_perform, List.mem_cons, or_assoc, hcall]

theorem Closed.run (h : q.Closed) (calls : List (QueueCall α)) : (q.run calls).2.Closed := by
  induction calls generalizing q with
  | nil => exact h
  | cons call calls ih => exact ih (h.perform call)

/-- A wake-up is stored if one was stored behind the last wait that used one up. -/
theorem wake_run (q : WorkQueues α) (calls : List (QueueCall α)) :
    (q.run calls).2.wake = true ↔
      (∃ before e after, (q.run calls).1 = before ++ e :: after ∧ e.wakes = true ∧
        ∀ e' ∈ after, e'.consumes = false) ∨
      q.wake = true ∧ ∀ e ∈ (q.run calls).1, e.consumes = false := by
  induction calls generalizing q with
  | nil => simp [run]
  | cons call calls ih =>
    rw [run_cons, ih, wake_perform]
    generalize (q.perform call).1 = e
    generalize ((q.perform call).2.run calls).1 = history
    simp only [List.forall_mem_cons, Bool.or_eq_true, Bool.and_eq_true, Bool.not_eq_true']
    constructor
    · rintro (⟨before, e', after, rfl, hwakes, hlater⟩ | ⟨hwakes | ⟨hwake, hkept⟩, hlater⟩)
      · exact .inl ⟨e :: before, e', after, rfl, hwakes, hlater⟩
      · exact .inl ⟨[], e, history, rfl, hwakes, hlater⟩
      · exact .inr ⟨hwake, hkept, hlater⟩
    · rintro (⟨before, e', after, heq, hwakes, hlater⟩ | ⟨hwake, hkept, hlater⟩)
      · cases before with
        | nil =>
          obtain ⟨rfl, rfl⟩ := List.cons.inj heq
          exact .inr ⟨.inl hwakes, hlater⟩
        | cons _ before =>
          obtain ⟨rfl, rfl⟩ := List.cons.inj heq
          exact .inl ⟨before, e', after, rfl, hwakes, hlater⟩
      · exact .inr ⟨.inr ⟨hwake, hkept⟩, hlater⟩

/-- Without a wake-up nothing waits, or a drain comes next: so it is between a wait and its drain. -/
def Heeded (q : WorkQueues α) (history : List (QueueEvent α)) : Prop :=
  q.wake = false →
    (∀ kind, q.items kind = []) ∨ ∃ batch rest, history = .drained batch :: rest

theorem Heeded.perform {call : QueueCall α} {history : List (QueueEvent α)}
    (h : q.Heeded ((q.perform call).1 :: history))
    (hdrains : DrainsWhenWoken ((q.perform call).1 :: history)) :
    (q.perform call).2.Heeded history := by
  intro hwake
  cases call with
  | enqueue kind item =>
    cases hs : q.stopped with
    | true =>
      simp only [WorkQueues.perform, enqueue_of_stopped hs] at h hwake ⊢
      exact (h hwake).imp_right fun ⟨_, _, hnext⟩ => nomatch hnext
    | false =>
      rw [wake_perform, WorkQueues.perform, (enqueue_eq_of_not_stopped hs kind item).1] at hwake
      cases hwake
  | drain | stop => exact .inl fun kind => by cases kind <;> rfl
  | wait =>
    cases hw : q.wake with
    | true =>
      have hwoken : (q.perform .wait).1 = .waited true := congrArg QueueEvent.waited hw
      exact .inr (hdrains [] _ (congrArg (· :: _) hwoken))
    | false => exact (h hw).imp_right fun ⟨_, _, hnext⟩ => nomatch hnext

/-- Whoever drains whenever it is woken never leaves a request without a wake-up. -/
theorem Heeded.run {calls : List (QueueCall α)} (h : q.Heeded (q.run calls).1)
    (hdrains : DrainsWhenWoken (q.run calls).1) : (q.run calls).2.Heeded [] := by
  induction calls generalizing q with
  | nil => exact h
  | cons call calls ih =>
    rw [run_cons] at h hdrains
    exact ih (h.perform hdrains) hdrains.tail

/-- Nothing is lost, doubled or reordered on its way through the queues. For each kind of request, those
handed out by drains and stops and those that still wait are, in this order, the ones accepted, in the order
of their acceptance. From the first stop on every request is refused and changes nothing, and the queues stay
empty; before it every request is accepted. A wake-up is stored exactly if a request was accepted or the
queues were stopped behind the last wait that used one up. So if whoever is woken drains before anything else
happens, a request never waits without a wake-up. As the calls are any list, all this holds at every moment
of a history. -/
theorem handed_out_once (calls : List (QueueCall α)) :
    let q := (run {} calls).2
    let history := (run {} calls).1
    history.map QueueEvent.call = calls ∧
    (∀ kind, history.flatMap (·.handedOut kind) ++ q.items kind = history.flatMap (·.accepted kind)) ∧
    (.stop ∈ calls → (∀ kind item, q.enqueue kind item = (.error .serviceStopped, q)) ∧
      ∀ kind, q.items kind = []) ∧
    (.stop ∉ calls → ∀ kind item, (q.enqueue kind item).1 = .ok ()) ∧
    (q.wake = true ↔ ∃ before e after, history = before ++ e :: after ∧ e.wakes = true ∧
      ∀ e' ∈ after, e'.consumes = false) ∧
    (DrainsWhenWoken history → ∀ kind, q.items kind ≠ [] → q.wake = true) := by
  intro q history
  have hstopped : q.stopped = true ↔ .stop ∈ calls := by
    have hrun := stopped_run ({} : WorkQueues α) calls
    rwa [or_iff_right Bool.false_ne_true] at hrun
  have hempty : ∀ kind, ({} : WorkQueues α).items kind = [] := by intro kind; cases kind <;> rfl
  refine ⟨map_call_run {} calls, fun kind => ?_, fun hstop => ?_, fun hrunning kind item => ?_, ?_, ?_⟩
  · have hbalance := balance_run ({} : WorkQueues α) calls kind
    rw [hempty, List.nil_append] at hbalance
    exact hbalance.symm
  · have hclosed : q.Closed := Closed.run (fun _ => hempty) calls
    exact ⟨enqueue_of_stopped (hstopped.mpr hstop), hclosed (hstopped.mpr hstop)⟩
  · have hs : q.stopped = false := Bool.eq_false_iff.mpr (mt hstopped.mp hrunning)
    exact (enqueue_eq_of_not_stopped hs kind item).1
  · have hwake := wake_run ({} : WorkQueues α) calls
    rwa [or_iff_left fun h => Bool.noConfusion h.1] at hwake
  · intro hdrains kind hwaits
    have hheeded : q.Heeded [] := Heeded.run (fun _ => .inl hempty) hdrains
    by_contra hwake
    rcases hheeded (Bool.eq_false_iff.mpr hwake) with hnone | ⟨_, _, hnext⟩
    · exact hwaits (hnone kind)
    · cases hnext

/-- Two requests are handed out behind a wait, one is left at the stop and one comes too late. -/
def stoppedInUse : List (QueueCall Nat) :=
  [.enqueue .write 1, .enqueue .connect 2, .wait, .drain, .enqueue .write 3]

theorem handed_out_once_stopped :
    let woken := (run {} stoppedInUse).2
    let q := (run {} (stoppedInUse ++ [.stop, .enqueue .write 4])).2
    [1, 3] ++ q.items .write = [1, 3] ∧ q.enqueue .write 4 = (.error .serviceStopped, q) ∧
      q.items .write = [] ∧ woken.items .write ≠ [] ∧ woken.wake = true := by
  obtain ⟨-, hbalance, hstopped, -, -, -⟩ :=
    handed_out_once (stoppedInUse ++ [.stop, .enqueue .write 4])
  obtain ⟨hrefused, hempty⟩ := hstopped (by decide)
  obtain ⟨-, -, -, -, -, hheard⟩ := handed_out_once stoppedInUse
  have hdrains : DrainsWhenWoken (run {} stoppedInUse).1 := by
    intro before after heq
    simp only [run, perform, stoppedInUse, List.cons_eq_append_iff] at heq
    simp_all
  have hwaits : (run {} stoppedInUse).2.items .write ≠ [] := by decide
  exact ⟨hbalance .write, hrefused .write 4, hempty .write, hwaits, hheard hdrains .write hwaits⟩

end WorkQueues

end VoiceBridge
