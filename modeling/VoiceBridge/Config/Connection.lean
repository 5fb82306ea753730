import VoiceBridge.Config.Credentials
import VoiceBridge.Config.Error
import VoiceBridge.Config.Profile
import VoiceBridge.Message.Assembly

/-!
# Connection settings
-/

namespace VoiceBridge

/-- Where a connection leads and how it behaves. -/
structure ConnectionConfig where
  sessionId : String
  host : String
  port : Nat := 443
  path : String := "/"
  useTls : Bool := true
  audioCapacity : Nat := 32000
  headerReserve : Nat := 16
  lowSpace : Nat := 3200
  maxMessage : Nat := 650000
  credentials : Credentials := .none
  profile : Profile := {}
  deriving Repr, DecidableEq, Inhabited

namespace ConnectionConfig

/-- The first thing that is wrong with the settings, in the order of their fields. -/
def validate (c : ConnectionConfig) : Except ConfigError Unit :=
  if c.sessionId.isEmpty then .error (.missingField "session_id")
  else if c.host.isEmpty then .error (.missingField "host")
  else if c.path.toList.head? != some '/' then .error (.invalidPath c.path)
  else if c.audioCapacity ≤ c.headerReserve then
    .error (.reserveTooLarge c.headerReserve c.audioCapacity)
  else if c.maxMessage = 0 then .error .zeroMessageSize
  else .ok ()

/-- The host as it stands in a URL: an address that contains colons is put in brackets. -/
def urlHost (c : ConnectionConfig) : String :=
  if c.host.toList.contains ':' && c.host.toList.head? != some '[' then "[" ++ c.host ++ "]"
  else c.host

def url (c : ConnectionConfig) : String :=
  let scheme := if c.useTls then "wss" else "ws"
  scheme ++ "://" ++ c.urlHost ++ ":" ++ toString c.port ++ c.path

/-- What its inbound messages may take. -/
def limits (c : ConnectionConfig) : AssemblyLimits := { maxMessage := c.maxMessage }

end ConnectionConfig

end VoiceBridge
