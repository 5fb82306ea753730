import VoiceBridge.Web.Endpoint
import VoiceBridge.Web.Handshake

/-!
# Scripted far ends

A far end that follows a script: it answers the upgrade request and then takes step after step, each
of which may wait until enough frames of the client have been seen. After the last step it sends
nothing more.
-/

namespace VoiceBridge.Web

/-- What has to have been seen in all before a step is taken, and what it then sends. -/
structure ScriptStep where
  texts : Nat := 0
  /-- Bytes in binary frames. -/
  bytes : Nat := 0
  frames : Nat := 0
  closes : Nat := 0
  /-- Empty binary frames. -/
  empties : Nat := 0
  frame : Option Frame := none
  /-- Bytes to send behind the frame. -/
  raw : Bytes := []
  deriving Repr, DecidableEq

structure FarEnd where
  /-- The whole reply, in place of one that agrees. -/
  reply : Option Bytes := none
  /-- Prove knowledge of another key. -/
  badAccept : Bool := false
  subprotocol : Option String := none
  steps : List ScriptStep := []
  /-- The frames of the client, oldest first, without its pongs. -/
  received : List Frame := []
  deriving Repr, DecidableEq

namespace FarEnd

/-- The reply to a request that came with a key. -/
def replyTo (f : FarEnd) (key : String) : Bytes :=
  match f.reply with
  | some bytes => bytes
  | none =>
    let accept := if f.badAccept then "bad" else acceptKey key
    let subprotocol := match f.subprotocol with
      | some p => "Sec-WebSocket-Protocol: " ++ p ++ "\r\n"
      | none => ""
    Text.utf8 ("HTTP/1.1 101 Switching Protocols\r\nConnection: Upgrade\r\nUpgrade: websocket\r\n"
      ++ "Sec-WebSocket-Accept: " ++ accept ++ "\r\n" ++ subprotocol ++ "\r\n")

/-- The number of frames with an opcode. -/
def countOf (f : FarEnd) (opcode : Nat) : Nat := f.received.countP (·.opcode == opcode)

/-- The binary frames received. -/
def binaries (f : FarEnd) : List Bytes :=
  (f.received.filter (·.opcode == Endpoint.binaryOpcode)).map (·.payload)

/-- The texts received. -/
def texts (f : FarEnd) : List Bytes :=
  (f.received.filter (·.opcode == Endpoint.textOpcode)).map (·.payload)

/-- Enough has been seen for a step. -/
def isReady (f : FarEnd) (s : ScriptStep) : Bool :=
  s.texts ≤ f.countOf Endpoint.textOpcode
    && s.bytes ≤ f.binaries.flatten.length
    && s.frames ≤ f.received.length
    && s.closes ≤ f.countOf Endpoint.closeOpcode
    && s.empties ≤ f.binaries.countP (·.isEmpty)

/-- The bytes of the steps that can be taken now, and the steps left. -/
def takeSteps (f : FarEnd) : List ScriptStep → Bytes × List ScriptStep
  | [] => ([], [])
  | s :: rest =>
    if f.isReady s then
      let (bytes, left) := f.takeSteps rest
      ((s.frame.map Frame.write).getD [] ++ s.raw ++ bytes, left)
    else ([], s :: rest)

/-- Take all steps that can be taken. -/
def goOn (f : FarEnd) : Bytes × FarEnd :=
  let (bytes, steps) := f.takeSteps f.steps
  (bytes, { f with steps })

/-- Nothing more will be sent. -/
def isDone (f : FarEnd) : Bool := f.steps.isEmpty

/-- Receive frames. -/
def receive (f : FarEnd) (frames : List Frame) : FarEnd :=
  { f with received := f.received ++ frames.filter (·.opcode != Endpoint.pongOpcode) }

end FarEnd

end VoiceBridge.Web
