import VoiceBridge.Text.Bytes

/-!
# Events

What a connection reports to its owner. Three of the events end the connection, each with an
outcome of its own.
-/

namespace VoiceBridge

/-- How a connection ended. -/
inductive TerminalOutcome where
  | failed
  | dropped
  | closedGracefully
  deriving Repr, DecidableEq, Inhabited

def TerminalOutcome.text : TerminalOutcome → String
  | .failed => "failed"
  | .dropped => "dropped"
  | .closedGracefully => "closed gracefully"

inductive EventKind where
  | connectSuccess
  | connectFail (reason : String)
  | connectionDropped
  | connectionClosedGracefully
  | message (text : String)
  | binary (bytes : Bytes)
  | bufferOverrun
  deriving Repr, DecidableEq

namespace EventKind

def name : EventKind → String
  | .connectSuccess => "connect_success"
  | .connectFail _ => "connect_fail"
  | .connectionDropped => "connection_dropped"
  | .connectionClosedGracefully => "connection_closed_gracefully"
  | .message _ => "message"
  | .binary _ => "binary"
  | .bufferOverrun => "buffer_overrun"

/-- The outcome that the event announces, if it is the last one. -/
def outcome? : EventKind → Option TerminalOutcome
  | .connectFail _ => some .failed
  | .connectionDropped => some .dropped
  | .connectionClosedGracefully => some .closedGracefully
  | _ => none

def isTerminal (e : EventKind) : Bool := e.outcome?.isSome

end EventKind

/-- An event with the connection it comes from. -/
structure Event where
  sessionId : String
  /-- The logical tag of the connection's profile. -/
  tag : String
  kind : EventKind
  deriving Repr, DecidableEq

end VoiceBridge
