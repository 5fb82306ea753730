import VoiceBridge.Bridge.Error

/-!
# Work queues

Callers leave their requests in three queues, and every request stores a wake-up for the event loop,
of which at most one is kept. Once stopped, the queues stay empty.
-/

namespace VoiceBridge

/-- What the queues held when they were emptied. -/
structure WorkBatch (α : Type) where
  connects : List α
  disconnects : List α
  writes : List α
  deriving Repr, DecidableEq

def WorkBatch.isEmpty {α : Type} (b : WorkBatch α) : Bool :=
  b.connects.isEmpty && b.disconnects.isEmpty && b.writes.isEmpty

/-- Which queue a request goes to. -/
inductive WorkKind where
  | connect
  | disconnect
  | write
  deriving Repr, DecidableEq

structure WorkQueues (α : Type) where
  /-- Requests that wait, oldest first. -/
  connects : List α := []
  disconnects : List α := []
  writes : List α := []
  /-- A wake-up is stored. -/
  wake : Bool := false
  stopped : Bool := false
  deriving Repr, DecidableEq, Inhabited

namespace WorkQueues

variable {α : Type}

/-- Leave a request, unless the queues are stopped. -/
def enqueue (q : WorkQueues α) (kind : WorkKind) (item : α) :
    Except BridgeError Unit × WorkQueues α :=
  if q.stopped then (.error .serviceStopped, q)
  else
    let q := { q with wake := true }
    (.ok (), match kind with
      | .connect => { q with connects := q.connects ++ [item] }
      | .disconnect => { q with disconnects := q.disconnects ++ [item] }
      | .write => { q with writes := q.writes ++ [item] })

/-- Take everything. -/
def drain (q : WorkQueues α) : WorkBatch α × WorkQueues α :=
  (⟨q.connects, q.disconnects, q.writes⟩,
    { q with connects := [], disconnects := [], writes := [] })

/-- Use up the stored wake-up, if there is one. -/
def wait (q : WorkQueues α) : Bool × WorkQueues α := (q.wake, { q with wake := false })

/-- Refuse all further requests and take what is left. -/
def stop (q : WorkQueues α) : WorkBatch α × WorkQueues α :=
  let (left, q) := q.drain
  (left, { q with wake := true, stopped := true })

/-- Stopped queues take nothing. -/
theorem enqueue_of_stopped {q : WorkQueues α} (h : q.stopped = true) (kind : WorkKind) (item : α) :
    q.enqueue kind item = (.error .serviceStopped, q) := by
  rw [enqueue, if_pos h]

/-- Nothing is left in the queues once they are drained. -/
theorem drain_drain (q : WorkQueues α) : q.drain.2.drain.1 = ⟨[], [], []⟩ := rfl

theorem stopped_stop (q : WorkQueues α) : q.stop.2.stopped = true := rfl

end WorkQueues

end VoiceBridge
