import VoiceBridge.Connection.LinkError
import VoiceBridge.Message.Fragment
import VoiceBridge.Message.Outbound

/-!
# The wire

A wire joins a connection to its far end: frames go out one by one, and what comes back waits until
it is taken. The network holds what all wires have in common, the manners of the far ends and the
faults to inject.
-/

namespace VoiceBridge

/-- What comes in from the far end. -/
inductive Arrival where
  | fragment (f : Fragment)
  /-- A sign of life without content. -/
  | heartbeat
  /-- The far end closes. -/
  | closed (code : Option Nat) (reason : String)
  | failed (e : LinkError)
  /-- The stream ends without a close frame. -/
  | ended
  deriving Repr, DecidableEq

/-- Faults of a wire. -/
structure Faults where
  /-- Every send after so many successful ones fails for the reason given. -/
  failAfter : Option (Nat × String) := none
  /-- At most so many bytes are reported as written. -/
  short : Option Nat := none
  /-- The wire cannot be asked for at all. -/
  invalid : Option String := none
  deriving Repr, DecidableEq, Inhabited

structure Network where
  /-- New wires are refused for this reason. -/
  refusal : Option String := none
  /-- New wires take so long to open. -/
  delay : Option Span := none
  /-- Far ends answer a ping. -/
  autoPong : Bool := true
  /-- Far ends answer a close frame with a close frame. -/
  echoClose : Bool := true
  /-- The faults of new wires. -/
  faults : Faults := {}
  deriving Repr, DecidableEq, Inhabited

structure Wire where
  /-- The far end has taken up the connection. -/
  opened : Bool := false
  faults : Faults := {}
  /-- What waits to be taken in, oldest first. -/
  inbound : List Arrival := []
  /-- All frames the far end received, oldest first. -/
  sent : List OutboundFrame := []
  /-- How many of them the far end has looked at. -/
  collected : Nat := 0
  deriving Repr, DecidableEq, Inhabited

namespace Wire

/-- What the far end sends back on its own when it receives a frame. -/
def echo (net : Network) : OutboundFrame → List Arrival
  | .ping _ => if net.autoPong then [.heartbeat] else []
  | .close => if net.echoClose then [.closed (some 1000) ""] else []
  | _ => []

/-- The reason for which the next send fails. -/
def sendFault? (w : Wire) : Option String :=
  match w.faults.failAfter with
  | some (n, reason) => if n ≤ w.sent.length then some reason else none
  | none => none

/-- Send a frame. The answer is the number of bytes written. -/
def send (net : Network) (w : Wire) (f : OutboundFrame) : Except LinkError Nat × Wire :=
  match w.sendFault? with
  | some reason => (.error (.send reason), w)
  | none =>
    let written := match w.faults.short with
      | some n => min n f.length
      | none => f.length
    (.ok written, { w with sent := w.sent ++ [f], inbound := w.inbound ++ echo net f })

/-- A frame that is sent is the last of those sent. -/
theorem sent_send_ok {net : Network} {w : Wire} {f : OutboundFrame} {n : Nat}
    (h : (w.send net f).1 = .ok n) : (w.send net f).2.sent = w.sent ++ [f] := by
  unfold send at h ⊢
  split
  · rename_i hf
    rw [hf] at h
    cases h
  · rfl

/-- A frame that is not sent leaves the wire as it was. -/
theorem send_error {net : Network} {w : Wire} {f : OutboundFrame} {e : LinkError}
    (h : (w.send net f).1 = .error e) : (w.send net f).2 = w := by
  unfold send at h ⊢
  split
  · rfl
  · rename_i hf
    rw [hf] at h
    cases h

/-- Something comes in. -/
def deliver (w : Wire) (arrivals : List Arrival) : Wire :=
  { w with inbound := w.inbound ++ arrivals }

/-- The frames the far end has not looked at yet. -/
def uncollected (w : Wire) : List OutboundFrame := w.sent.drop w.collected

/-- The far end looks at `n` more frames. -/
def collect (w : Wire) (n : Nat) : Wire :=
  { w with collected := min (w.collected + n) w.sent.length }

/-- The far end looks at the next frame. -/
def next (w : Wire) : Option OutboundFrame × Wire := (w.uncollected.head?, w.collect 1)

/-- The far end looks for the next frame that is no ping, passing over pings. -/
def nextData (w : Wire) : Option OutboundFrame × Wire :=
  let rest := w.uncollected.dropWhile OutboundFrame.isPing
  (rest.head?, w.collect (w.uncollected.length - rest.length + 1))

/-- The frames up to and with the first that satisfies `stop`, or all of them. -/
def upTo (stop : OutboundFrame → Bool) : List OutboundFrame → List OutboundFrame
  | [] => []
  | f :: rest => if stop f then [f] else f :: upTo stop rest

/-- The far end looks at all frames up to the first that is no ping and satisfies `stop`. -/
def nextUntil (w : Wire) (stop : OutboundFrame → Bool) : List OutboundFrame × Wire :=
  let seen := upTo (fun f => !f.isPing && stop f) w.uncollected
  (seen.filter fun f => !f.isPing, w.collect seen.length)

end Wire

end VoiceBridge
