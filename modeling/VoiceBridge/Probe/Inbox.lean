import VoiceBridge.Connection.Event
import VoiceBridge.Log

/-!
# Reading events

The probe reads the events of its connection in order and prints the messages among them. It looks
for the first event, for the event that ends the connection, or at whatever there is.
-/

namespace VoiceBridge

/-- What was printed and logged. -/
structure Journal where
  /-- Lines of output, oldest first. -/
  printed : List String := []
  log : List LogLine := []
  deriving Repr, DecidableEq, Inhabited

namespace Journal

/-- Note an event. The answer is the outcome, if the event ends the connection. -/
def report (j : Journal) (e : EventKind) : Option TerminalOutcome × Journal :=
  let j := match e with
    | .message text => { j with printed := j.printed ++ [text] }
    | .bufferOverrun =>
      { j with log := j.log ++ [⟨.warn, "audio buffer overrun; pending audio dropped"⟩] }
    | .connectFail reason => { j with log := j.log ++ [⟨.warn, "connect failed: " ++ reason⟩] }
    | _ => j
  (e.outcome?, j)

/-- Note all events. The answer is the last outcome among them. -/
def reportAll (j : Journal) : List EventKind → Option TerminalOutcome × Journal
  | [] => (none, j)
  | e :: rest =>
    let (outcome, j) := j.report e
    let (later, j) := j.reportAll rest
    (later.or outcome, j)

/-- Note events up to the one that ends the connection. The answer is the outcome with the number of
events noted. -/
def reportToEnd (j : Journal) : List EventKind → (Option TerminalOutcome × Nat) × Journal
  | [] => ((none, 0), j)
  | e :: rest =>
    match j.report e with
    | (some outcome, j) => ((some outcome, 1), j)
    | (none, j) =>
      let ((outcome, n), j) := j.reportToEnd rest
      ((outcome, n + 1), j)

/-- What was printed, every line with its end. -/
def output (j : Journal) : String := String.join (j.printed.map (· ++ "\n"))

end Journal

/-- Why a probe cannot say how its connection ended. -/
inductive ProbeFault where
  /-- Nothing came of the request to connect in time. -/
  | noAnswer
  /-- Nobody is left to report. -/
  | hungUp
  | refused (reason : String)
  | unexpected (e : EventKind)
  deriving Repr, DecidableEq

namespace ProbeFault

def message : ProbeFault → String
  | noAnswer | hungUp => "no connect result from the bridge"
  | refused reason => "connect failed: " ++ reason
  | unexpected e => "unexpected first event: " ++ e.name

/-- What lies behind it, if there is more to say. -/
def cause? : ProbeFault → Option String
  | noAnswer => some "timed out waiting on channel"
  | hungUp => some "channel is empty and sending half is closed"
  | refused _ | unexpected _ => none

/-- What the first event says about the request to connect. -/
def ofFirst : EventKind → Except ProbeFault Unit
  | .connectSuccess => .ok ()
  | .connectFail reason => .error (.refused reason)
  | e => .error (.unexpected e)

end ProbeFault

end VoiceBridge
