import VoiceBridge.Connection.LinkError
import VoiceBridge.Web.Target

/-!
# Upgrade requests
-/

namespace VoiceBridge.Web

structure Request where
  target : Target
  /-- Header fields in the order of their names, which are written small. -/
  headers : List (String × String)
  deriving Repr, DecidableEq

/-- A text that can be sent as the value of a header: it holds no control character but tabs. -/
def isHeaderText (s : String) : Bool :=
  s.toList.all fun c => c == '\t' || (0x20 ≤ c.toNat && c.toNat != 0x7F)

/-- A text that can be shown as the value of a header: it is ASCII as well. -/
def isVisible (s : String) : Bool := s.toList.all fun c => c == '\t' || (0x20 ≤ c.toNat && c.toNat < 0x7F)

namespace Request

/-- A header field that may be missing. -/
def field (name : String) : Option String → List (String × String)
  | some value => [(name, value)]
  | none => []

/-- The upgrade request of a connection, where `accepts` says which texts may stand in a header. -/
def ofConfigWith (accepts : String → Bool) (c : ConnectionConfig) (key : String) :
    Except LinkError Request :=
  match Target.ofConfig c with
  | .error fault => .error (.invalidRequest (c.url ++ ": " ++ (WebError.target fault).message))
  | .ok target =>
    if !c.credentials.header.all accepts then .error (.invalidRequest "authorization header")
    else if !c.profile.subprotocol.all accepts then
      .error (.invalidRequest ("subprotocol " ++ Text.quoted (c.profile.subprotocol.getD "")))
    else
      .ok {
        target
        headers :=
          field "authorization" c.credentials.header
            ++ [("connection", "Upgrade"), ("host", target.hostHeader), ("sec-websocket-key", key)]
            ++ field "sec-websocket-protocol" c.profile.subprotocol
            ++ [("sec-websocket-version", "13"), ("upgrade", "websocket")] }

/-- The upgrade request of a connection. -/
def ofConfig (c : ConnectionConfig) (key : String) : Except LinkError Request :=
  ofConfigWith isHeaderText c key

/-- Every header can be shown. -/
def isSendable (r : Request) : Bool := r.headers.all fun h => isVisible h.2

/-- The subprotocols asked for, if any are. -/
def subprotocols (r : Request) : Option (List (List Char)) :=
  (r.headers.lookup "sec-websocket-protocol").map fun value => value.toList.splitOn ','

end Request

end VoiceBridge.Web
