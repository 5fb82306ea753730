import VoiceBridge.Config.Connection
import VoiceBridge.Config.Value

/-!
# Settings as values

The record form of settings, with every field in it.
-/

namespace VoiceBridge

/-- A number as a value. -/
def Value.nat (n : Nat) : Value := .int (.ofNat n)

/-- A value that may be missing. -/
def Value.ofOption {α : Type} (write : α → Value) : Option α → Value
  | none => .null
  | some a => write a

def Credentials.encode : Credentials → Value
  | .none => .record [("type", .text "none")]
  | .basic username password =>
    .record [("type", .text "basic"), ("username", .text username), ("password", .text password)]
  | .bearer apiKey => .record [("type", .text "bearer"), ("api_key", .text apiKey)]

def FinishSignal.encode : FinishSignal → Value
  | .text s => .record [("text", .text s)]
  | .emptyBinary => .text "empty_binary"

def Profile.encode (p : Profile) : Value :=
  .record [
    ("tag", .text p.tag),
    ("bidirectional_audio", .bool p.bidirectional),
    ("keepalive_secs", .ofOption .nat p.keepaliveSecs),
    ("finish", p.finish.encode),
    ("subprotocol", .ofOption .text p.subprotocol)]

def ConnectionConfig.encode (c : ConnectionConfig) : Value :=
  .record [
    ("session_id", .text c.sessionId),
    ("host", .text c.host),
    ("port", .nat c.port),
    ("path", .text c.path),
    ("use_tls", .bool c.useTls),
    ("audio_capacity", .nat c.audioCapacity),
    ("header_reserve", .nat c.headerReserve),
    ("low_space_threshold", .nat c.lowSpace),
    ("max_message_size", .nat c.maxMessage),
    ("credentials", c.credentials.encode),
    ("profile", c.profile.encode)]

end VoiceBridge
