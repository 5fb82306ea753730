import VoiceBridge.Message.Fragment

/-!
# Putting messages together

An `Assembly` takes fragments one by one and gives back a message when its final fragment arrives.
A message beyond the size limit is dropped, the rest of its fragments are skipped, and the next
first fragment starts afresh. `capacity` is the room set aside for the message: it starts from the
sender's estimate, grows in whole steps and never passes the limit.
-/

namespace VoiceBridge

/-- The largest message, and the step by which room for one grows. -/
structure AssemblyLimits where
  maxMessage : Nat := 650000
  growth : Nat := 16384
  deriving Repr, DecidableEq, Inhabited

/-- A whole message. -/
structure Message where
  kind : PayloadKind
  payload : Bytes
  deriving Repr, DecidableEq

/-- What one fragment led to. -/
inductive PushOutcome where
  /-- The message goes on. -/
  | incomplete
  /-- The message is whole. -/
  | complete (message : Message)
  /-- The message grew to `received` bytes, beyond the limit, and is dropped. -/
  | oversized (received : Nat)
  /-- The fragment belongs to no message that is being put together. -/
  | skipped
  deriving Repr, DecidableEq

/-- Where the reassembly stands. -/
inductive AssemblyState where
  | idle
  /-- The fragments of a dropped message are being skipped. -/
  | discarding
  | collecting (kind : PayloadKind) (payload : Bytes) (capacity : Nat)
  deriving Repr, DecidableEq

structure Assembly where
  limits : AssemblyLimits := {}
  state : AssemblyState := .idle
  deriving Repr, DecidableEq

namespace Assembly

def isAssembling (a : Assembly) : Bool :=
  match a.state with
  | .collecting .. => true
  | _ => false

/-- Bytes of the message received so far. -/
def received (a : Assembly) : Nat :=
  match a.state with
  | .collecting _ payload _ => payload.length
  | _ => 0

/-- Room set aside for the message. -/
def capacity (a : Assembly) : Nat :=
  match a.state with
  | .collecting _ _ capacity => capacity
  | _ => 0

/-- Drop the message in progress. -/
def clear (a : Assembly) : Assembly := { a with state := .idle }

/-- Room for `needed` bytes where there was room for `capacity`: whole steps are added, up to the
limit.

The sums are taken in unbounded numbers. The program takes them in 64 bits and does not guard them,
so a growth step with which they do not fit (one close to `2 ^ 64`, where the sum that rounds up
wraps round or stops the program) is left out. -/
def grow (limits : AssemblyLimits) (capacity needed : Nat) : Nat :=
  if needed ≤ capacity then capacity
  else
    let step := max limits.growth 1
    let steps := (needed - capacity + step - 1) / step
    min (capacity + steps * step) limits.maxMessage

/-- Go on with a message of which `payload` is there, the last piece of it just now. -/
def settle (a : Assembly) (kind : PayloadKind) (payload : Bytes) (capacity : Nat) (final : Bool) :
    PushOutcome × Assembly :=
  if final then (.complete ⟨kind, payload⟩, a.clear)
  else (.incomplete, { a with state := .collecting kind payload capacity })

/-- Drop a message; its remaining fragments, if there are any, will be skipped. -/
def abandon (a : Assembly) (final : Bool) : Assembly :=
  { a with state := if final then .idle else .discarding }

/-- Take the first fragment of a message. -/
def pushFirst (a : Assembly) (f : Fragment) : PushOutcome × Assembly :=
  if a.limits.maxMessage < f.payload.length then
    (.oversized f.payload.length, a.abandon f.isFinal)
  else
    a.settle f.kind f.payload (min (f.payload.length + f.remaining) a.limits.maxMessage) f.isFinal

/-- Take a fragment that continues a message. -/
def pushNext (a : Assembly) (f : Fragment) : PushOutcome × Assembly :=
  match a.state with
  | .idle => (.skipped, a)
  | .discarding => (.skipped, a.abandon f.isFinal)
  | .collecting kind payload capacity =>
    let needed := payload.length + f.payload.length
    if a.limits.maxMessage < needed then (.oversized needed, a.abandon f.isFinal)
    else a.settle kind (payload ++ f.payload) (grow a.limits capacity needed) f.isFinal

/-- Take one fragment. -/
def push (a : Assembly) (f : Fragment) : PushOutcome × Assembly :=
  if f.isFirst then a.pushFirst f else a.pushNext f

/-- The bytes of an unfinished message that the fragment would cut off by starting another. -/
def interrupted? (a : Assembly) (f : Fragment) : Option Nat :=
  if f.isFirst && a.isAssembling then some a.received else none

end Assembly

end VoiceBridge
