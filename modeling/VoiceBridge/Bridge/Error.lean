import VoiceBridge.Audio.Buffer
import VoiceBridge.Config.Error
import VoiceBridge.Connection.State

/-!
# Refusals

Why the bridge refuses a call. What happens later on the network is not among them: that arrives as
an event.
-/

namespace VoiceBridge

inductive BridgeError where
  /-- The call makes no sense in the state the connection is in. -/
  | invalidState (sessionId operation : String) (state : ConnectionState)
  | serviceStopped
  | config (e : ConfigError)
  | buffer (e : BufferError)
  | runtimeInit
  | threadSpawn
  | threadPanicked
  deriving Repr, DecidableEq

def BridgeError.message : BridgeError → String
  | .invalidState sessionId operation state =>
    let name := state.name
    s!"session {sessionId}: cannot {operation} while {name}"
  | .serviceStopped => "the bridge service is stopped"
  | .config e => "invalid connection config: " ++ e.message
  | .buffer e => "invalid audio buffer: " ++ e.message
  | .runtimeInit => "failed to build the event-loop runtime"
  | .threadSpawn => "failed to spawn the event-loop thread"
  | .threadPanicked => "the event-loop thread panicked"

end VoiceBridge
