/-!
# Log lines

What the bridge has to say beside its answers.
-/

namespace VoiceBridge

inductive LogLevel where
  | warn
  | error
  deriving Repr, DecidableEq

def LogLevel.name : LogLevel → String
  | .warn => "WARN"
  | .error => "ERROR"

structure LogLine where
  level : LogLevel
  text : String
  deriving Repr, DecidableEq

namespace LogLine

/-- The line with its level in front. -/
def line (l : LogLine) : String := l.level.name ++ " " ++ l.text

/-- A message began while another, of which `received` bytes were there, was unfinished. -/
def messageInterrupted (received : Nat) : LogLine :=
  let text := s!"new message started before the previous one finished; discarding {received} bytes"
  ⟨.warn, text⟩

end LogLine

end VoiceBridge
