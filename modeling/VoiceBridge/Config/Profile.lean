import VoiceBridge.Message.Outbound
import VoiceBridge.Span

/-!
# Profiles

A profile holds what differs from one speech service to the next.
-/

namespace VoiceBridge

/-- How the far end is told that no more audio follows. -/
inductive FinishSignal where
  | text (s : String)
  | emptyBinary
  deriving Repr, DecidableEq, Inhabited

/-- The frame that carries the signal. -/
def FinishSignal.frame : FinishSignal → OutboundFrame
  | .text s => .text s
  | .emptyBinary => .binary []

structure Profile where
  /-- Attached to every event of the connection. -/
  tag : String := "audio_fork"
  /-- Binary messages of the far end become events. -/
  bidirectional : Bool := false
  /-- Seconds between pings in place of the service's own; zero sends none. -/
  keepaliveSecs : Option Nat := none
  finish : FinishSignal := .text "stop"
  /-- What to ask for in `Sec-WebSocket-Protocol`. -/
  subprotocol : Option String := none
  deriving Repr, DecidableEq, Inhabited

namespace Profile

/-- Audio goes out, text comes back. -/
def plain : Profile := {}

/-- For services that hang up on silence and send audio back. -/
def keepalive (secs : Nat) : Profile :=
  { tag := "audio_fork_keepalive", bidirectional := true, keepaliveSecs := some secs }

/-- The time between pings, given that of the service; `none` where no pings are sent. -/
def keepaliveInterval (p : Profile) (service : Option Span) : Option Span :=
  match p.keepaliveSecs with
  | some 0 => none
  | some secs => some (.ofSecs secs)
  | none => service

end Profile

end VoiceBridge
