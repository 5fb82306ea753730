import VoiceBridge.Text.Bytes

/-!
# Outbound frames

What a connection sends to its far end.
-/

namespace VoiceBridge

inductive OutboundFrame where
  | text (text : String)
  | binary (bytes : Bytes)
  | ping (bytes : Bytes)
  | close
  deriving Repr, DecidableEq

namespace OutboundFrame

/-- The number of payload bytes. -/
def length : OutboundFrame → Nat
  | .text s => Text.size s
  | .binary bytes => bytes.length
  | .ping bytes => bytes.length
  | .close => 0

def isEmpty (f : OutboundFrame) : Bool := f.length == 0

def kindName : OutboundFrame → String
  | .text _ => "text"
  | .binary _ => "binary"
  | .ping _ => "ping"
  | .close => "close"

def isPing : OutboundFrame → Bool
  | .ping _ => true
  | _ => false

end OutboundFrame

end VoiceBridge
