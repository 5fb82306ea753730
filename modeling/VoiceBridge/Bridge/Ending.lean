import VoiceBridge.Bridge.Connection
import VoiceBridge.Config.Service

/-!
# How connections end

An ending is what the driver of an open connection finds; `Ending.verdict?` is the table that gives
the final state and the last event.
-/

namespace VoiceBridge

/-- What a driver sees besides its connection. -/
structure LoopContext where
  config : ServiceConfig
  network : Network
  /-- The time in nanoseconds. -/
  now : Nat
  deriving Repr, DecidableEq

/-- Why an open connection ends. -/
inductive Ending where
  /-- The far end sent a close frame. -/
  | remoteClose
  | lost (reason : String)
  /-- The far end gave no sign of life. -/
  | silence
  /-- The far end did not answer a close frame. -/
  | noCloseReply
  deriving Repr, DecidableEq

namespace Ending

/-- The final state and the last event of a connection that was in `state`. Whatever ends a closing
connection ends it gracefully. -/
def verdict? (e : Ending) (graceful : Bool) : ConnectionState → Option (ConnectionState × EventKind)
  | .disconnecting => some (.disconnected, .connectionClosedGracefully)
  | .connected =>
    match e with
    | .remoteClose =>
      some (.disconnected, if graceful then .connectionClosedGracefully else .connectionDropped)
    | .lost _ | .silence | .noCloseReply => some (.failed, .connectionDropped)
  | _ => none

/-- What to log about it. -/
def remark? (e : Ending) (config : ServiceConfig) : Option String :=
  match e with
  | .remoteClose => none
  | .lost reason => some ("connection lost: " ++ reason)
  | .silence => some ("nothing heard for " ++ config.pongTimeout.text ++ "; dropping")
  | .noCloseReply => some ("no close reply within " ++ config.closeTimeout.text)

end Ending

namespace Connection

/-- The driver stops. Those who still wait will not be told. -/
def driverGone (c : Connection) : Connection := { c.abandonWaits with phase := .over }

/-- Apply the table. -/
def endedBy (ctx : LoopContext) (e : Ending) (c : Connection) : Connection :=
  match e.verdict? c.graceful c.state with
  | none => c.driverGone
  | some (final, event) =>
    match c.moved c.state final with
    | .error _ => c.driverGone
    | .ok c =>
      let c := match e.remark? ctx.config with
        | some text => c.warned text
        | none => c
      (c.emit event).driverGone

/-- The wire could not be opened. -/
def connectFailed (e : LinkError) (c : Connection) : Connection :=
  let c := c.warned e.message
  match c.moved .connecting .failed with
  | .ok c => (c.emit (.connectFail e.message)).driverGone
  | .error _ => c.driverGone

end Connection

end VoiceBridge
