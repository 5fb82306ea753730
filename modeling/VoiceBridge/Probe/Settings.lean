import VoiceBridge.Bridge.Stream
import VoiceBridge.Config.Service
import VoiceBridge.Probe.CommandLine
import VoiceBridge.Probe.SettingsFile

/-!
# Settings of the probe

What the command line gives takes precedence over the settings file, and that over the defaults.
-/

namespace VoiceBridge

/-- Everything a probe needs to know. -/
structure ProbeSettings where
  connection : ConnectionConfig
  stream : StreamSettings
  /-- Announce the format before the audio. -/
  sendStart : Bool
  /-- The file with the audio. -/
  input : String
  /-- How long to wait for the far end to close. -/
  waitSecs : Nat
  deriving Repr, DecidableEq

inductive SettingsError where
  | noHost
  | invalid (e : ConfigError)
  deriving Repr, DecidableEq

namespace SettingsError

def message : SettingsError → String
  | noHost => "no host given (use --host, AUDIO_FORK_PROBE_HOST or the config file)"
  | invalid _ => "invalid connection settings"

/-- What lies behind it, if there is more to say. -/
def cause? : SettingsError → Option String
  | noHost => none
  | invalid e => some e.message

end SettingsError

namespace CommandLine

/-- The credentials that a command line gives. -/
def credentials? (c : CommandLine) : Option Credentials :=
  match c.bearer, c.basicUser, c.basicPassword with
  | some apiKey, _, _ => some (.bearer apiKey)
  | none, some username, some password => some (.basic username password)
  | _, _, _ => none

/-- The settings of the connection, not validated yet. -/
def connection (c : CommandLine) (file : SettingsFile) (freshId host : String) :
    ConnectionConfig :=
  let useTls := c.useTls || file.useTls.getD false
  let profile := file.profile.getD Profile.plain
  let standard : ConnectionConfig := { sessionId := c.sessionId.getD freshId, host }
  { standard with
    port := (c.port.or file.port).getD (if useTls then 443 else 80)
    path := (c.path.or file.path).getD "/"
    useTls
    credentials := (c.credentials?.or file.credentials).getD .none
    profile := { profile with bidirectional := c.bidirectional || profile.bidirectional }
    maxMessage := file.maxMessage.getD standard.maxMessage }

/-- The format and pace of the audio. -/
def stream (c : CommandLine) (file : SettingsFile) : StreamSettings :=
  let standard : StreamSettings := {}
  { sampleRate := (c.sampleRate.or file.audio.sampleRate).getD standard.sampleRate
    channels := (c.channels.or file.audio.channels).getD standard.channels
    frameMillis := (c.frameMillis.or file.audio.frameMillis).getD standard.frameMillis }

/-- Put command line and settings file together. A session without a name gets a fresh one. -/
def settings (c : CommandLine) (file : SettingsFile) (freshId : String) :
    Except SettingsError ProbeSettings :=
  match c.host.or file.host with
  | none => .error .noHost
  | some host =>
    let connection := c.connection file freshId host
    match connection.validate with
    | .error e => .error (.invalid e)
    | .ok () =>
      .ok { connection, stream := c.stream file, sendStart := c.sendStart, input := c.input
            waitSecs := c.waitSecs }

end CommandLine

end VoiceBridge
