import VoiceBridge.Config.Error
import VoiceBridge.Span
import VoiceBridge.Text.Blank
import VoiceBridge.Text.Decimal

/-!
# Service settings

The settings that all connections share. `ServiceConfig.fromLookup` reads them from variables: a
number of seconds is written as `Decimal.below?` describes, with blanks around it allowed.
-/

namespace VoiceBridge

structure ServiceConfig where
  /-- Time between pings; `none` sends none. -/
  keepalive : Option Span := some (.ofSecs 20)
  /-- Silence of the far end after which a connection is given up. -/
  pongTimeout : Span := .ofSecs 60
  /-- Time left to the far end to answer a close frame. -/
  closeTimeout : Span := .ofSecs 5
  /-- Time left for opening a connection. -/
  connectTimeout : Span := .ofSecs 10
  /-- What to log; `none` leaves it to the program around the service. -/
  logFilter : Option String := none
  deriving Repr, DecidableEq, Inhabited

namespace ServiceConfig

def keepaliveVariable : String := "AUDIO_FORK_KEEPALIVE_SECS"
def pongVariable : String := "AUDIO_FORK_PONG_TIMEOUT_SECS"
def closeVariable : String := "AUDIO_FORK_CLOSE_TIMEOUT_SECS"
def connectVariable : String := "AUDIO_FORK_CONNECT_TIMEOUT_SECS"
def logVariable : String := "AUDIO_FORK_LOG"

/-- A number of seconds below 2^64. -/
def seconds? (raw : String) : Option Nat := Decimal.below? (Nat.pow 2 64) (Text.trim raw.toList)

/-- The seconds held by a variable, if it is set. -/
def readSeconds (lookup : String → Option String) (name : String) :
    Except ConfigError (Option Nat) :=
  match lookup name with
  | none => .ok none
  | some raw =>
    match seconds? raw with
    | some n => .ok (some n)
    | none => .error (.invalidEnv name raw)

/-- The time between pings for a number of seconds, of which zero stands for no pings. -/
def keepaliveOfSecs (n : Nat) : Option Span := if n = 0 then none else some (.ofSecs n)

/-- The settings that the variables give; one that is not set leaves its default. -/
def fromLookup (lookup : String → Option String) : Except ConfigError ServiceConfig := do
  let standard : ServiceConfig := {}
  let keepalive ← readSeconds lookup keepaliveVariable
  let pong ← readSeconds lookup pongVariable
  let close ← readSeconds lookup closeVariable
  let connect ← readSeconds lookup connectVariable
  return {
    keepalive := (keepalive.map keepaliveOfSecs).getD standard.keepalive
    pongTimeout := (pong.map Span.ofSecs).getD standard.pongTimeout
    closeTimeout := (close.map Span.ofSecs).getD standard.closeTimeout
    connectTimeout := (connect.map Span.ofSecs).getD standard.connectTimeout
    logFilter := (lookup logVariable).filter fun v => !(Text.trim v.toList).isEmpty }

end ServiceConfig

end VoiceBridge
