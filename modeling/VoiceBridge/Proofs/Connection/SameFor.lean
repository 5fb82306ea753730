import VoiceBridge.Proofs.Connection.Call

/-!
# What a call sees of the work queues

A call reads of the work queues only whether the service is stopped. On queues that differ in the
requests of others (`SameFor`) it is answered alike, makes the same of its connection and leaves queues
that again differ in the requests of others (`Agree`).
-/

namespace VoiceBridge

/-- As far as one name goes, the queues hold the same requests. -/
structure SameFor (id : String) (q q' : Requests) : Prop where
  stopped : q'.stopped = q.stopped
  connects : id ∈ q'.connects ↔ id ∈ q.connects
  disconnects : id ∈ q'.disconnects ↔ id ∈ q.disconnects
  writes : id ∈ q'.writes ↔ id ∈ q.writes

/-- Two results of a call that differ in the requests of others. -/
structure Agree {α : Type*} (id : String) (r r' : α × Connection × Requests) : Prop where
  answer : r'.1 = r.1
  connection : r'.2.1 = r.2.1
  queues : SameFor id r.2.2 r'.2.2

namespace SameFor

variable {id : String} {q q' q'' : Requests}

theorem refl (id : String) (q : Requests) : SameFor id q q := ⟨rfl, Iff.rfl, Iff.rfl, Iff.rfl⟩

theorem trans (h : SameFor id q q') (h' : SameFor id q' q'') : SameFor id q q'' :=
  ⟨h'.stopped.trans h.stopped, h'.connects.trans h.connects, h'.disconnects.trans h.disconnects,
    h'.writes.trans h.writes⟩

theorem symm (h : SameFor id q q') : SameFor id q' q :=
  ⟨h.stopped.symm, h.connects.symm, h.disconnects.symm, h.writes.symm⟩

/-- What others ask for is nothing to a name. -/
theorem of_asked {name : String} (h : Asked name q q') (hid : id ≠ name) : SameFor id q q' where
  stopped := h.stopped
  connects := ⟨h.newConnects id hid, h.connects id⟩
  disconnects := ⟨h.newDisconnects id hid, h.disconnects id⟩
  writes := by rw [← List.count_pos_iff, ← List.count_pos_iff, h.writes id hid]

theorem enqueue (h : SameFor id q q') (kind : WorkKind) (name : String) :
    (q'.enqueue kind name).1 = (q.enqueue kind name).1 ∧
      SameFor id (q.enqueue kind name).2 (q'.enqueue kind name).2 := by
  unfold WorkQueues.enqueue
  rw [h.stopped]
  split
  · exact ⟨rfl, h⟩
  · refine ⟨rfl, ?_⟩
    cases kind with
    | connect => exact ⟨rfl, by simp [h.connects], h.disconnects, h.writes⟩
    | disconnect => exact ⟨rfl, h.connects, by simp [h.disconnects], h.writes⟩
    | write => exact ⟨rfl, h.connects, h.disconnects, by simp [h.writes]⟩

theorem requestWrite (h : SameFor id q q') (c : Connection) :
    Agree id (c.requestWrite q) (c.requestWrite q') := by
  obtain ⟨hanswer, hqueues⟩ := h.enqueue .write c.id
  unfold Connection.requestWrite
  split
  · exact ⟨rfl, rfl, h⟩
  · generalize q.enqueue .write c.id = r at hanswer hqueues ⊢
    generalize q'.enqueue .write c.id = r' at hanswer hqueues ⊢
    obtain ⟨answer, p⟩ := r
    obtain ⟨answer', p'⟩ := r'
    cases hanswer
    cases answer <;> exact ⟨rfl, rfl, hqueues⟩

theorem connect (h : SameFor id q q') (c : Connection) : Agree id (c.connect q) (c.connect q') := by
  obtain ⟨hanswer, hqueues⟩ := h.enqueue .connect c.id
  unfold Connection.connect
  split
  · exact ⟨rfl, rfl, h⟩
  · generalize q.enqueue .connect c.id = r at hanswer hqueues ⊢
    generalize q'.enqueue .connect c.id = r' at hanswer hqueues ⊢
    obtain ⟨answer, p⟩ := r
    obtain ⟨answer', p'⟩ := r'
    cases hanswer
    cases answer <;> exact ⟨rfl, rfl, hqueues⟩

theorem close (h : SameFor id q q') (c : Connection) : Agree id (c.close q) (c.close q') := by
  obtain ⟨hanswer, hqueues⟩ := h.enqueue .disconnect c.beginDisconnect.2.id
  unfold Connection.close
  split
  · split <;> exact ⟨rfl, rfl, h⟩
  · exact ⟨rfl, rfl, h⟩
  · exact ⟨hanswer, rfl, hqueues⟩
  all_goals exact ⟨rfl, rfl, h⟩

theorem closeWithCompletion (h : SameFor id q q') (c : Connection) :
    Agree id (c.closeWithCompletion q) (c.closeWithCompletion q') := by
  obtain ⟨hanswer, hconnection, hqueues⟩ := h.close c
  unfold Connection.closeWithCompletion
  generalize c.close q = r at hanswer hconnection hqueues ⊢
  generalize c.close q' = r' at hanswer hconnection hqueues ⊢
  obtain ⟨answer, d, p⟩ := r
  obtain ⟨answer', d', p'⟩ := r'
  cases hanswer
  cases hconnection
  cases answer <;> exact ⟨rfl, rfl, hqueues⟩

theorem finish (h : SameFor id q q') (c : Connection) : Agree id (c.finish q) (c.finish q') := by
  unfold Connection.finish
  split
  · exact ⟨rfl, rfl, h⟩
  · exact h.requestWrite _

theorem queueText (h : SameFor id q q') (c : Connection) (s : String) :
    Agree id (c.queueText s q) (c.queueText s q') := by
  unfold Connection.queueText
  split <;> first | exact h.requestWrite _ | exact ⟨rfl, rfl, h⟩

theorem releaseAudio (h : SameFor id q q') (c : Connection) :
    (c.releaseAudio q').1 = (c.releaseAudio q).1 ∧
      SameFor id (c.releaseAudio q).2 (c.releaseAudio q').2 := by
  unfold Connection.releaseAudio
  split
  · exact ⟨(h.requestWrite c).connection, (h.requestWrite c).queues⟩
  · exact ⟨rfl, h⟩

theorem stream (closeAfter : Option Nat) (frames : List Bytes) (h : SameFor id q q') (c : Connection)
    (r : StreamReport) :
    Agree id (c.stream q closeAfter r frames) (c.stream q' closeAfter r frames) := by
  induction frames generalizing c q q' r with
  | nil => exact ⟨rfl, rfl, h⟩
  | cons frame rest ih =>
    obtain ⟨hconnection, hqueues⟩ := h.releaseAudio (c.writeAudio frame).2
    unfold Connection.stream Connection.streamFrame
    split
    · exact ⟨rfl, rfl, h⟩
    · dsimp only
      rw [hconnection]
      split
      · obtain ⟨_, hclosed, hafter⟩ := hqueues.close ((c.writeAudio frame).2.releaseAudio q).1
        rw [hclosed]
        exact ih hafter _ _
      · exact ih hqueues _ _

/-- A call does not see the requests of others. -/
theorem perform (h : SameFor id q q') (c : Connection) (call : Call) :
    Agree id (c.perform q call) (c.perform q' call) := by
  have hcall : ∀ {r r' : Except BridgeError Unit × Connection × Requests}, Agree id r r' →
      Agree id (Answer.ofCall r) (Answer.ofCall r') :=
    fun hr => ⟨congrArg Answer.ofUnit hr.answer, hr.connection, hr.queues⟩
  cases call with
  | connect => exact hcall (h.connect c)
  | close => exact hcall (h.close c)
  | closeWithCompletion => exact hcall (h.closeWithCompletion c)
  | finish => exact hcall (h.finish c)
  | text s => exact hcall (h.queueText c s)
  | audio chunks text =>
    cases text with
    | none =>
      obtain ⟨hconnection, hqueues⟩ := h.releaseAudio (c.writeChunks chunks).2
      exact ⟨rfl, hconnection, hqueues⟩
    | some s =>
      obtain ⟨_, htext, hafter⟩ := h.queueText (c.writeChunks chunks).2 s
      obtain ⟨hconnection, hqueues⟩ := hafter.releaseAudio ((c.writeChunks chunks).2.queueText s q).2.1
      unfold Connection.perform
      dsimp only
      rw [htext]
      exact ⟨rfl, hconnection, hqueues⟩
  | slot bytes commit =>
    obtain ⟨hconnection, hqueues⟩ := h.releaseAudio (c.commitSlot bytes commit).2
    exact ⟨rfl, hconnection, hqueues⟩
  | stream settings pcm closeAfter =>
    obtain ⟨hanswer, hconnection, hqueues⟩ := h.stream closeAfter (settings.cut pcm) c {}
    exact ⟨congrArg Answer.streamed hanswer, hconnection, hqueues⟩
  | inspect | target | drop => exact ⟨rfl, rfl, h⟩

end SameFor

end VoiceBridge
