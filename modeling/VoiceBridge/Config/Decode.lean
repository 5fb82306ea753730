import VoiceBridge.Config.Connection
import VoiceBridge.Config.Value

/-!
# Settings from values

A structure of settings is read from a record, in which members that name no field are passed over
and a text may give no field twice, or from a list of its fields in order. Every reader answers
`none` for a value it does not accept.
-/

namespace VoiceBridge

/-- Where a value was read from. What differs is how the settings without content are spelled,
whether a list may hold more than the fields, and whether a field may be there twice. -/
inductive Dialect where
  /-- A JSON value in memory. Its records are maps, so a member behind another of its name is not
  there. -/
  | json
  /-- A JSON text. -/
  | jsonText
  /-- A TOML text. -/
  | toml
  deriving Repr, DecidableEq

namespace Value

/-- No field is given twice. Members that name no field may repeat each other. -/
def Unrepeated (names : List String) (members : List (String × Value)) : Prop :=
  ((members.map Prod.fst).filter names.contains).Nodup

instance (names : List String) (members : List (String × Value)) :
    Decidable (Unrepeated names members) :=
  inferInstanceAs (Decidable (List.Nodup _))

/-- The fields of a structure that a value gives, by name. -/
def fields? (d : Dialect) (names : List String) : Value → Option (List (String × Value))
  | record members => if d = .json ∨ Unrepeated names members then some members else none
  | list items =>
    if d ≠ .toml ∧ names.length < items.length then none else some (names.zip items)
  | moment _ => some []
  | _ => none

/-- A field that has to be there. -/
def required {α : Type} (fields : List (String × Value)) (name : String) (read : Value → Option α) :
    Option α :=
  match fields.lookup name with
  | some v => read v
  | none => none

/-- A field that may be missing. -/
def optional {α : Type} (fields : List (String × Value)) (name : String) (read : Value → Option α)
    (default : α) : Option α :=
  match fields.lookup name with
  | some v => read v
  | none => some default

/-- A value or the lack of one. -/
def nullable {α : Type} (read : Value → Option α) : Value → Option (Option α)
  | null => some none
  | v => (read v).map some

/-- Nothing at all, as a dialect spells it. -/
def isNothing : Dialect → Value → Bool
  | .toml, v =>
    match v with
    | list [] | record [] => true
    | _ => false
  | _, null => true
  | _, _ => false

end Value

open Value

namespace Credentials

/-- Read credentials from the fields behind their type. -/
def ofFields? (type : String) (fields : List (String × Value)) : Option Credentials :=
  match type with
  | "none" => some .none
  | "basic" => do
    return .basic (← required fields "username" text?) (← required fields "password" text?)
  | "bearer" => do return .bearer (← required fields "api_key" text?)
  | _ => Option.none

/-- The names of the fields behind a type. -/
def fieldNames (type : String) : List String :=
  match type with
  | "basic" => ["username", "password"]
  | "bearer" => ["api_key"]
  | _ => []

/-- Read credentials: the member `type`, or the head of a list, says which kind they are. -/
def decode? : Value → Option Credentials
  | .record members => do
    let type ← required members "type" text?
    if Unrepeated ("type" :: fieldNames type) members then ofFields? type members else Option.none
  | .list (.text type :: items) =>
    if (fieldNames type).length < items.length then Option.none
    else ofFields? type ((fieldNames type).zip items)
  | _ => Option.none

end Credentials

/-- Read a finish signal: a name alone, or a record of one member that names it. -/
def FinishSignal.decode? (d : Dialect) : Value → Option FinishSignal
  | .text "empty_binary" => some .emptyBinary
  | .record [("text", .text s)] => some (.text s)
  | .record [("empty_binary", v)] => if isNothing d v then some .emptyBinary else none
  | _ => none

namespace Profile

def fieldNames : List String :=
  ["tag", "bidirectional_audio", "keepalive_secs", "finish", "subprotocol"]

def decode? (d : Dialect) (v : Value) : Option Profile := do
  let fields ← v.fields? d fieldNames
  let standard := plain
  return {
    tag := ← optional fields "tag" text? standard.tag
    bidirectional := ← optional fields "bidirectional_audio" bool? standard.bidirectional
    keepaliveSecs := ←
      optional fields "keepalive_secs" (nullable (natBelow? (Nat.pow 2 64))) standard.keepaliveSecs
    finish := ← optional fields "finish" (FinishSignal.decode? d) standard.finish
    subprotocol := ← optional fields "subprotocol" (nullable text?) standard.subprotocol }

end Profile

namespace ConnectionConfig

def fieldNames : List String :=
  ["session_id", "host", "port", "path", "use_tls", "audio_capacity", "header_reserve",
    "low_space_threshold", "max_message_size", "credentials", "profile"]

def decode? (d : Dialect) (v : Value) : Option ConnectionConfig := do
  let fields ← v.fields? d fieldNames
  let sessionId ← required fields "session_id" text?
  let host ← required fields "host" text?
  let standard : ConnectionConfig := { sessionId, host }
  let size := natBelow? (Nat.pow 2 64)
  return { standard with
    port := ← optional fields "port" (natBelow? (Nat.pow 2 16)) standard.port
    path := ← optional fields "path" text? standard.path
    useTls := ← optional fields "use_tls" bool? standard.useTls
    audioCapacity := ← optional fields "audio_capacity" size standard.audioCapacity
    headerReserve := ← optional fields "header_reserve" size standard.headerReserve
    lowSpace := ← optional fields "low_space_threshold" size standard.lowSpace
    maxMessage := ← optional fields "max_message_size" size standard.maxMessage
    credentials := ← optional fields "credentials" Credentials.decode? standard.credentials
    profile := ← optional fields "profile" (Profile.decode? d) standard.profile }

end ConnectionConfig

end VoiceBridge
