import VoiceBridge.Web.Script

/-!
# Sockets

A socket is an endpoint joined to a scripted far end: whatever one sends reaches the other at once.
-/

namespace VoiceBridge.Web

structure Socket where
  endpoint : Endpoint
  farEnd : FarEnd
  deriving Repr, DecidableEq

/-- What came of opening a socket: the request, if the far end was reached with one, and the socket
or the reason why there is none. -/
structure Opening where
  request : Option Request := none
  result : Except LinkError Socket

namespace Socket

/-- The far end goes on with its script, having received frames. -/
def pass (s : Socket) (frames : List Frame) : Socket :=
  let (bytes, farEnd) := (s.farEnd.receive frames).goOn
  { farEnd
    endpoint := { s.endpoint with
      inbox := s.endpoint.inbox ++ bytes
      finished := s.endpoint.finished || farEnd.isDone } }

/-- Open a socket to a far end, if it is found at the host and the port of the target. -/
def dial (c : ConnectionConfig) (key : String) (reachable : String → Nat → Bool) (farEnd : FarEnd) :
    Opening :=
  let failed (e : WebError) : Except LinkError Socket := .error (.connect c.url e.message)
  match Request.ofConfig c key with
  | .error e => { result := .error e }
  | .ok request =>
    if !reachable request.target.host (request.target.port c.useTls) then
      { result := failed .refused }
    else if !request.isSendable then { result := failed .encoding }
    else
      let (bytes, farEnd) := farEnd.goOn
      match openWith request key (farEnd.replyTo key ++ bytes) with
      | .error e => { request := some request, result := failed e }
      | .ok inbox =>
        let limit := min (Endpoint.headroom * c.maxMessage) (Nat.pow 2 64 - 1)
        let endpoint : Endpoint := { limit, inbox, finished := farEnd.isDone }
        { request := some request, result := .ok { endpoint, farEnd } }

/-- Send a frame. The answer is the number of its bytes. -/
def send (s : Socket) (f : OutboundFrame) : Except LinkError Nat × Socket :=
  match s.endpoint.send f with
  | (.error e, endpoint) => (.error (.send e.message), { s with endpoint })
  | (.ok frames, endpoint) => (.ok f.length, { s with endpoint }.pass frames)

/-- Send frames one after the other. -/
def sendAll (s : Socket) : List OutboundFrame → List (Except LinkError Nat) × Socket
  | [] => ([], s)
  | f :: rest =>
    let (r, s) := s.send f
    let (rs, s) := s.sendAll rest
    (r :: rs, s)

/-- What arrives next, if anything does. -/
def next (s : Socket) : Option Arrival × Socket :=
  let s := match s.endpoint.queued with
    | some f => { s with endpoint := { s.endpoint with queued := none } }.pass [f]
    | none => s
  let (a, _, endpoint) := s.endpoint.read
  (a, { s with endpoint })

/-- The last thing to arrive. -/
def isLast : Arrival → Bool
  | .closed .. | .failed _ | .ended => true
  | .fragment _ | .heartbeat => false

/-- What arrives up to the end, or up to `fuel` arrivals. -/
def drainFor : (fuel : Nat) → Socket → List Arrival × Socket
  | 0, s => ([], s)
  | fuel + 1, s =>
    match s.next with
    | (none, s) => ([], s)
    | (some a, s) =>
      if isLast a then ([a], s)
      else
        let (rest, s) := drainFor fuel s
        (a :: rest, s)

/-- Bytes that the far end may still send. -/
def bytesLeft (s : Socket) : Nat :=
  s.endpoint.inbox.length
    + (s.farEnd.steps.map fun step =>
        ((step.frame.map fun f => f.payload.length + 10).getD 0) + step.raw.length).foldl Nat.add 0

/-- What arrives up to the end or until nothing more does. -/
def drain (s : Socket) : List Arrival × Socket := drainFor (s.bytesLeft + 1) s

end Socket

end VoiceBridge.Web
