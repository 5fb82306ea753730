import VoiceBridge.Span

/-!
# Link errors

What can go wrong between a connection and its far end.
-/

namespace VoiceBridge

inductive LinkError where
  /-- The far end could not be reached or did not agree to talk. -/
  | connect (url reason : String)
  /-- Opening took too long. -/
  | connectTimeout (url : String) (limit : Span)
  /-- The settings make no valid upgrade request. -/
  | invalidRequest (reason : String)
  | send (reason : String)
  | receive (reason : String)
  deriving Repr, DecidableEq

def LinkError.message : LinkError → String
  | .connect url reason => s!"connect to {url} failed: {reason}"
  | .connectTimeout url limit =>
    let span := limit.text
    s!"connect to {url} timed out after {span}"
  | .invalidRequest reason => s!"invalid upgrade request: {reason}"
  | .send reason => s!"send failed: {reason}"
  | .receive reason => s!"receive failed: {reason}"

end VoiceBridge
