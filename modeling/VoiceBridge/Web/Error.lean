/-!
# Web socket errors

What can go wrong between the two ends of a web socket, from the upgrade request to the last frame.
-/

namespace VoiceBridge.Web

/-- What is wrong with a URL. -/
inductive TargetFault where
  | tooLong
  | character
  | authority
  /-- There is no authority at all. -/
  | form
  deriving Repr, DecidableEq

def TargetFault.message : TargetFault → String
  | .tooLong => "uri too long"
  | .character => "invalid uri character"
  | .authority => "invalid authority"
  | .form => "invalid format"

/-- What is wrong with the head of a reply. -/
inductive HeadFault where
  | newLine
  | version
  | status
  | headerName
  | headerValue
  | tooManyHeaders
  deriving Repr, DecidableEq

/-- What breaks the rules of the protocol. -/
inductive ProtocolFault where
  | head (fault : HeadFault)
  | handshakeIncomplete
  | oldVersion
  | noUpgrade
  | noConnection
  | acceptMismatch
  | noSubprotocol
  | unexpectedSubprotocol
  | unknownSubprotocol
  | sendAfterClose
  | receivedAfterClose
  | reset
  | opcode (n : Nat)
  | reservedBits
  | masked
  | fragmentedControl
  | longControl
  | closePayload
  | strayContinuation
  | interleaved (kind : String)
  deriving Repr, DecidableEq

def HeadFault.message : HeadFault → String
  | .newLine => "httparse error: invalid new line"
  | .version => "httparse error: invalid HTTP version"
  | .status => "httparse error: invalid response status"
  | .headerName => "httparse error: invalid header name"
  | .headerValue => "httparse error: invalid header value"
  | .tooManyHeaders => "httparse error: too many headers"

def ProtocolFault.message : ProtocolFault → String
  | .head fault => fault.message
  | .handshakeIncomplete => "Handshake not finished"
  | .oldVersion => "HTTP version must be 1.1 or higher"
  | .noUpgrade => "No \"Upgrade: websocket\" header"
  | .noConnection => "No \"Connection: upgrade\" header"
  | .acceptMismatch => "Key mismatch in \"Sec-WebSocket-Accept\" header"
  | .noSubprotocol => "SubProtocol error: Server sent no subprotocol"
  | .unexpectedSubprotocol => "SubProtocol error: Server sent a subprotocol but none was requested"
  | .unknownSubprotocol => "SubProtocol error: Server sent an invalid subprotocol"
  | .sendAfterClose => "Sending after closing is not allowed"
  | .receivedAfterClose => "Remote sent after having closed"
  | .reset => "Connection reset without closing handshake"
  | .opcode n => s!"Encountered invalid opcode: {n}"
  | .reservedBits => "Reserved bits are non-zero"
  | .masked => "Received a masked frame from server"
  | .fragmentedControl => "Fragmented control frame"
  | .longControl => "Control frame too big (payload must be 125 bytes or less)"
  | .closePayload => "Invalid close sequence"
  | .strayContinuation => "Continue frame but nothing to continue"
  | .interleaved kind => s!"While waiting for more fragments received: {kind}"

inductive WebError where
  | refused
  /-- The socket is no longer there. -/
  | gone
  /-- A text is not what its encoding demands. -/
  | encoding
  | target (fault : TargetFault)
  | protocol (fault : ProtocolFault)
  | tooManyHeaders
  | messageTooLong (size limit : Nat)
  /-- The head of the reply goes on and on. -/
  | endlessHead
  /-- The reply has a status code that is none. -/
  | statusCode
  /-- The far end answered with another status. -/
  | status (code : Nat) (reason : Option String)
  deriving Repr, DecidableEq

def WebError.message : WebError → String
  | .refused => "IO error: Connection refused (os error 111)"
  | .gone => "Trying to work with closed connection"
  | .encoding => "UTF-8 encoding error"
  | .target fault => "HTTP format error: " ++ fault.message
  | .protocol fault => "WebSocket protocol error: " ++ fault.message
  | .tooManyHeaders => "Space limit exceeded: Too many headers"
  | .messageTooLong size limit => s!"Space limit exceeded: Message too long: {size} > {limit}"
  | .endlessHead => "Attack attempt detected"
  | .statusCode => "HTTP format error: invalid status code"
  | .status code reason =>
    let reason := reason.getD "<unknown status code>"
    s!"HTTP error: {code} {reason}"

end VoiceBridge.Web
