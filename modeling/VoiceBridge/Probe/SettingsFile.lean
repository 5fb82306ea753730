import VoiceBridge.Config.Decode
import VoiceBridge.Toml.Document

/-!
# Settings files

A settings file may give the address, the credentials, the profile and the audio format of a probe.
Everything in it is optional.
-/

namespace VoiceBridge

/-- What a settings file has to say about the audio. -/
structure AudioSection where
  sampleRate : Option Nat := none
  channels : Option Nat := none
  frameMillis : Option Nat := none
  deriving Repr, DecidableEq, Inhabited

structure SettingsFile where
  host : Option String := none
  port : Option Nat := none
  path : Option String := none
  useTls : Option Bool := none
  maxMessage : Option Nat := none
  credentials : Option Credentials := none
  profile : Option Profile := none
  audio : AudioSection := {}
  deriving Repr, DecidableEq, Inhabited

/-- Why a file cannot be read. -/
inductive ReadFault where
  | missing
  /-- It does not hold text. -/
  | notText
  deriving Repr, DecidableEq

def ReadFault.message : ReadFault → String
  | missing => "No such file or directory (os error 2)"
  | notText => "stream did not contain valid UTF-8"

/-- Why a settings file is of no use. -/
inductive SettingsFileError where
  | unreadable (path : String) (fault : ReadFault)
  | invalid (path : String)
  deriving Repr, DecidableEq

namespace SettingsFileError

def message : SettingsFileError → String
  | unreadable path _ => "cannot read config file " ++ path
  | invalid path => "invalid config file " ++ path

/-- What lies behind it, if there is more to say. -/
def cause? : SettingsFileError → Option String
  | unreadable _ fault => some fault.message
  | invalid _ => none

end SettingsFileError

open Value

/-- A field that may be missing and has no default. -/
def Value.given {α : Type} (fields : List (String × Value)) (name : String)
    (read : Value → Option α) : Option (Option α) :=
  optional fields name (fun v => (read v).map some) none

namespace AudioSection

def fieldNames : List String := ["sample_rate", "channels", "frame_ms"]

def decode? (d : Dialect) (v : Value) : Option AudioSection := do
  let fields ← v.fields? d fieldNames
  return {
    sampleRate := ← given fields "sample_rate" (natBelow? (Nat.pow 2 32))
    channels := ← given fields "channels" (natBelow? (Nat.pow 2 16))
    frameMillis := ← given fields "frame_ms" (natBelow? (Nat.pow 2 32)) }

end AudioSection

namespace SettingsFile

def fieldNames : List String :=
  ["host", "port", "path", "use_tls", "max_message_size", "credentials", "profile", "audio"]

def decode? (d : Dialect) (v : Value) : Option SettingsFile := do
  let fields ← v.fields? d fieldNames
  return {
    host := ← given fields "host" text?
    port := ← given fields "port" (natBelow? (Nat.pow 2 16))
    path := ← given fields "path" text?
    useTls := ← given fields "use_tls" bool?
    maxMessage := ← given fields "max_message_size" (natBelow? (Nat.pow 2 64))
    credentials := ← given fields "credentials" Credentials.decode?
    profile := ← given fields "profile" (Profile.decode? d)
    audio := ← optional fields "audio" (AudioSection.decode? d) {} }

/-- Read the text of a settings file. -/
def parse (path text : String) : Except SettingsFileError SettingsFile :=
  match (Toml.Document.parse? text).bind (decode? .toml) with
  | some file => .ok file
  | none => .error (.invalid path)

/-- Read a settings file, given its bytes if it is there. -/
def load (path : String) (content : Option Bytes) : Except SettingsFileError SettingsFile :=
  match content with
  | none => .error (.unreadable path .missing)
  | some bytes =>
    match Text.ofUtf8? bytes with
    | none => .error (.unreadable path .notText)
    | some s => parse path s

end SettingsFile

end VoiceBridge
