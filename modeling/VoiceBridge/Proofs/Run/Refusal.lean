import VoiceBridge.Proofs.Run.WakeUp

/-!
# What a refused call leaves behind

A call is refused for one of two reasons. One that makes no sense in the present state is refused before
it touches anything. One that comes after the shutdown gets as far as its request, which the stopped
queues do not take, and what it did on the way there is not undone: `afterRefusal` says what that is. So
a close that was refused has begun all the same, and the next one is told `ok`.
-/

namespace VoiceBridge

/-- The operation that the refusal of a call names. All other calls are never refused. -/
def Call.operation? : Call → Option String
  | .connect => some "connect"
  | .close | .closeWithCompletion => some "close"
  | .finish => some "finish"
  | .text _ => some "queue text"
  | _ => none

theorem Answer.ofUnit_eq_refused {r : Except BridgeError Unit} {e : BridgeError} :
    ofUnit r = .refused e ↔ r = .error e := by
  cases r <;> simp [ofUnit]

namespace Connection

variable {c : Connection} {q : Requests} {e : BridgeError}

/-- What a call has done when the stopped service refuses it. -/
def afterRefusal (c : Connection) : Call → Connection
  | .connect => { c with connectRequested := false }
  | .close | .closeWithCompletion => { c with state := .disconnecting }
  | .finish => { c with graceful := true, outbox := c.outbox ++ [c.config.profile.finish.frame] }
  | .text s => { c with outbox := c.outbox ++ [.text s] }
  | _ => c

/-- How a call is refused: for the state of the connection, or by a service that is stopped. -/
inductive Refusal (c : Connection) (q : Requests) (call : Call) :
    BridgeError → Connection × Requests → Prop
  | invalid {operation : String} (names : call.operation? = some operation) :
      Refusal c q call (c.invalid operation) (c, q)
  | late (refusable : call.operation?.isSome = true) (stopped : q.stopped = true)
      (state : if call = .connect then c.state = .idle else c.state = .connected)
      (unasked : call = .finish ∨ (∃ s, call = .text s) → c.writeQueued = false) :
      Refusal c q call .serviceStopped (c.afterRefusal call, q)

/-- A turn is refused by a stopped service only, unless it was asked for before. -/
theorem requestWrite_error (h : (c.requestWrite q).1 = .error e) :
    c.writeQueued = false ∧ q.stopped = true ∧ c.requestWrite q = (.error .serviceStopped, c, q) := by
  unfold requestWrite at h ⊢
  cases hq : c.writeQueued with
  | true => simp [hq] at h
  | false =>
    cases hs : q.stopped with
    | true => simp [WorkQueues.enqueue_of_stopped hs]
    | false => simp [hq, enqueue_of_running hs] at h

theorem refusal_connect (h : (c.connect q).1 = .error e) :
    Refusal c q .connect e (c.connect q).2 := by
  unfold Connection.connect at h ⊢
  split at h
  · rename_i hs
    rw [if_pos hs]
    cases h
    exact .invalid rfl
  · rename_i hs
    rw [if_neg hs]
    cases hstopped : q.stopped with
    | true =>
      rw [WorkQueues.enqueue_of_stopped hstopped] at h ⊢
      cases h
      exact .late rfl hstopped (not_not.mp hs) (by simp)
    | false => simp [enqueue_of_running hstopped] at h

theorem refusal_close {call : Call} (hcall : call = .close ∨ call = .closeWithCompletion)
    (h : (c.close q).1 = .error e) : Refusal c q call e (c.close q).2 := by
  have hnames : call.operation? = some "close" := by rcases hcall with rfl | rfl <;> rfl
  unfold Connection.close at h ⊢
  split at h <;> rename_i hs
  · split at h
    · cases h
    · rename_i hr
      rw [if_neg hr]
      cases h
      exact .invalid hnames
  · cases h
  · rw [beginDisconnect_eq hs] at h ⊢
    dsimp only at h ⊢
    cases hstopped : q.stopped with
    | true =>
      have hafter : c.afterRefusal call = { c with state := .disconnecting } := by
        rcases hcall with rfl | rfl <;> rfl
      rw [WorkQueues.enqueue_of_stopped hstopped] at h ⊢
      cases h
      dsimp only
      rw [← hafter]
      exact .late (by rw [hnames]; rfl) hstopped (by rcases hcall with rfl | rfl <;> exact hs)
        (by rcases hcall with rfl | rfl <;> simp)
    | false => simp [enqueue_of_running hstopped] at h
  all_goals cases h

theorem refusal_finish (h : (c.finish q).1 = .error e) : Refusal c q .finish e (c.finish q).2 := by
  unfold Connection.finish at h ⊢
  split at h
  · rename_i hs
    rw [if_pos hs]
    cases h
    exact .invalid rfl
  · rename_i hs
    obtain ⟨hunasked, hstopped, heq⟩ := requestWrite_error h
    rw [if_neg hs, heq]
    rw [heq] at h
    cases h
    exact .late rfl hstopped (not_not.mp hs) fun _ => hunasked

theorem refusal_text {s : String} (h : (c.queueText s q).1 = .error e) :
    Refusal c q (.text s) e (c.queueText s q).2 := by
  unfold Connection.queueText at h ⊢
  split at h <;> rename_i hs
  · cases h; exact .invalid rfl
  · cases h; exact .invalid rfl
  · cases h; exact .invalid rfl
  · cases h
  · cases h
  · obtain ⟨hunasked, hstopped, heq⟩ := requestWrite_error h
    rw [heq] at h ⊢
    cases h
    exact .late rfl hstopped hs fun _ => hunasked

/-- Every refusal of a call is one of the two. -/
theorem refusal_perform {call : Call} (h : (c.perform q call).1 = .refused e) :
    Refusal c q call e (c.perform q call).2 := by
  cases call with
  | connect => exact refusal_connect (Answer.ofUnit_eq_refused.mp h)
  | close => exact refusal_close (.inl rfl) (Answer.ofUnit_eq_refused.mp h)
  | closeWithCompletion =>
    have hrefused : (c.closeWithCompletion q).1 = .error e := Answer.ofUnit_eq_refused.mp h
    change Refusal c q .closeWithCompletion e (c.closeWithCompletion q).2
    rcases closeWithCompletion_cases c q with ⟨_, hafter⟩ | ⟨_, hafter⟩ <;> rw [hafter] at hrefused ⊢
    · cases hrefused
    · exact refusal_close (.inr rfl) hrefused
  | finish => exact refusal_finish (Answer.ofUnit_eq_refused.mp h)
  | text s => exact refusal_text (Answer.ofUnit_eq_refused.mp h)
  | slot bytes count =>
    unfold perform at h
    dsimp only at h
    split at h <;> cases h
  | audio | stream | inspect | target | drop => cases h

/-- A call that comes too late changes something, unless it is a `connect` and nothing had asked for the
wire before. -/
theorem Refusal.afterRefusal_eq_iff {call : Call} {left : Connection × Requests}
    (h : Refusal c q call .serviceStopped left) :
    c.afterRefusal call = c ↔ call = .connect ∧ c.connectRequested = false := by
  cases h with
  | late refusable _ state =>
    cases call with
    | connect =>
      simp only [true_and]
      exact ⟨fun heq => (congrArg connectRequested heq).symm, fun hr => by rw [afterRefusal, ← hr]⟩
    | close | closeWithCompletion =>
      have hconn : c.state = .connected := state
      simp only [reduceCtorEq, false_and, iff_false]
      intro heq
      have hclosing := congrArg Connection.state heq
      rw [hconn] at hclosing
      cases hclosing
    | finish | text =>
      simp only [reduceCtorEq, false_and, iff_false]
      intro heq
      have hlength := congrArg (fun d : Connection => d.outbox.length) heq
      simp [afterRefusal] at hlength
    | audio | slot | stream | inspect | target | drop => cases refusable

/-- A stopped service refuses a turn that was not asked for before. -/
theorem requestWrite_of_stopped (hs : q.stopped = true) :
    (c.requestWrite q).1 = if c.writeQueued then .ok () else .error .serviceStopped := by
  unfold requestWrite
  split
  · rfl
  · rw [WorkQueues.enqueue_of_stopped hs]

/-- A call that was refused is refused again, but for a close that has begun all the same. -/
theorem Refusal.again {call : Call} {left : Connection × Requests}
    (h : Refusal c q call e left) (hrefused : (c.perform q call).1 = .refused e) :
    (left.1.perform left.2 call).1 =
      if e = .serviceStopped ∧ (call = .close ∨ call = .closeWithCompletion) then .done
      else .refused e := by
  cases h with
  | invalid => exact hrefused.trans (if_neg (by simp [Connection.invalid])).symm
  | late refusable stopped state unasked =>
    cases call with
    | connect =>
      have hidle : c.state = .idle := state
      change Answer.ofUnit ({ c with connectRequested := false }.connect q).1 = _
      simp [Connection.connect, hidle, WorkQueues.enqueue_of_stopped stopped, Answer.ofUnit]
    | close => rfl
    | closeWithCompletion => rfl
    | finish =>
      have hconn : c.state = .connected := state
      refine Answer.ofUnit_eq_refused.mpr ?_
      change ((c.afterRefusal .finish).finish q).1 = _
      rw [Connection.finish, if_neg (by simp [afterRefusal, hconn]), requestWrite_of_stopped stopped]
      exact if_neg (by simp [afterRefusal, unasked (.inl rfl)])
    | text s =>
      have hconn : c.state = .connected := state
      refine Answer.ofUnit_eq_refused.mpr ?_
      change ((c.afterRefusal (.text s)).queueText s q).1 = _
      unfold Connection.queueText
      rw [show (c.afterRefusal (.text s)).state = .connected from hconn]
      dsimp only
      rw [requestWrite_of_stopped stopped]
      exact if_neg (by simp [afterRefusal, unasked (.inr ⟨s, rfl⟩)])
    | audio | slot | stream | inspect | target | drop => cases refusable

end Connection

/-- A call that is refused leaves the queues and all other connections as they were. Refused for the
state of its connection it changes nothing at all, and before the shutdown there is no other reason.
Refused by the stopped service it leaves behind what it had done up to its request, which is nothing only
for a `connect` where none had been accepted before. A close that was refused then is told `ok` when it is
made again; every other call is refused as before. -/
theorem refused_call (b : Bridge) (id : String) (call : Call) (e : BridgeError)
    (hrefused : (b.act (.call id call)).1 = .refused e) :
    let b' := (b.act (.call id call)).2
    b'.queues = b.queues ∧ (∀ other, other ≠ id → b'.find? other = b.find? other) ∧
      (b'.act (.call id call)).1 =
        (if e = .serviceStopped ∧ (call = .close ∨ call = .closeWithCompletion) then .done
        else .refused e) ∧
      ∃ c, b.find? id = some c ∧ c.held = true ∧
        ((∃ operation, call.operation? = some operation ∧ e = c.invalid operation ∧ b' = b) ∨
          e = .serviceStopped ∧ b.queues.stopped = true ∧
            b'.find? id = some (c.afterRefusal call) ∧
            (b' = b ↔ call = .connect ∧ c.connectRequested = false)) := by
  intro b'
  obtain ⟨c, hc, hheld⟩ : ∃ c, b.find? id = some c ∧ c.held = true := by
    cases hc : b.find? id with
    | none => simp [Bridge.act, hc] at hrefused
    | some c =>
      cases hheld : c.held with
      | false => simp [Bridge.act, hc, hheld] at hrefused
      | true => exact ⟨c, rfl, hheld⟩
  have hanswer : (c.perform b.queues call).1 = .refused e :=
    (Bridge.act_call_answer hc hheld call).symm.trans hrefused
  have hrefusal := Connection.refusal_perform hanswer
  have hframe := Connection.CallFrame.perform c b.queues call
  have hscope := c.scope_perform b.queues call
  have hb' : b' = b.put id (c.perform b.queues call).2.1 (c.perform b.queues call).2.2 := by
    have hact := Bridge.act_call b id call
    rw [hc] at hact
    exact hact.trans (if_pos hheld)
  have hfind : b'.find? id = some (c.perform b.queues call).2.1 := Bridge.find?_call_held hc hheld call
  have hqueues : b'.queues = (c.perform b.queues call).2.2 := by rw [hb']; rfl
  have hkept : (c.perform b.queues call).2.1.held = true := by
    rcases hscope.held with hsame | ⟨rfl, _⟩
    · exact hsame.trans hheld
    · cases hanswer
  have hagain := hrefusal.again hanswer
  rw [← hqueues, ← Bridge.act_call_answer hfind hkept] at hagain
  refine ⟨?_, fun other hne => ?_, hagain, c, hc, hheld, ?_⟩
  · rw [hqueues]
    generalize (c.perform b.queues call).2 = left at hrefusal
    cases hrefusal <;> rfl
  · rw [hb', Bridge.find?_put (hframe.id.trans (Bridge.id_of_find? hc)), if_neg hne]
  · generalize (c.perform b.queues call).2 = left at hrefusal hb' hfind
    have hrefusal' := hrefusal
    cases hrefusal with
    | invalid names => exact .inl ⟨_, names, rfl, hb'.trans (Bridge.put_self hc)⟩
    | late refusable stopped state unasked =>
      refine .inr ⟨rfl, stopped, hfind, ?_⟩
      rw [← hrefusal'.afterRefusal_eq_iff]
      constructor
      · intro hsame
        rw [hsame, hc] at hfind
        exact (Option.some.inj hfind).symm
      · intro hsame
        rw [hb', hsame]
        exact Bridge.put_self hc

/-- The service is stopped while a wire is open. -/
def cutOpen : List Move :=
  [.act (.create "a" { sessionId := "a", host := "far" } none), .act (.call "a" .connect), .loop,
    .wait 1, .errand 0 .dial, .act .shutdown]

/-- A close is refused then, and begins. -/
theorem refused_call_cutOpen :
    let b := Bridge.play { config := {} } cutOpen
    let b' := (b.act (.call "a" .close)).2
    (b.act (.call "a" .close)).1 = .refused .serviceStopped ∧ b' ≠ b ∧
      (b'.act (.call "a" .close)).1 = .done := by
  have hrefused : ((Bridge.play { config := {} } cutOpen).act (.call "a" .close)).1 =
      .refused .serviceStopped := by decide +kernel
  obtain ⟨_, _, hagain, _, _, _, hleft⟩ := refused_call _ "a" .close _ hrefused
  refine ⟨hrefused, ?_, hagain⟩
  rcases hleft with ⟨_, _, hinvalid, _⟩ | ⟨_, _, _, hsame⟩
  · cases hinvalid
  · exact fun heq => Call.noConfusion (hsame.mp heq).1

end VoiceBridge
