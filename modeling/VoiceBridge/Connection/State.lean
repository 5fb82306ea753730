/-!
# Connection states

A connection is opened once and ends once: `canBecome` lists the moves between its states, none of
which leads out of `disconnected` or `failed`.
-/

namespace VoiceBridge

inductive ConnectionState where
  | idle
  | connecting
  | connected
  | disconnecting
  | disconnected
  | failed
  deriving Repr, DecidableEq, Inhabited

namespace ConnectionState

/-- All states, in the order of their codes. -/
def all : List ConnectionState :=
  [.idle, .connecting, .connected, .disconnecting, .disconnected, .failed]

def name : ConnectionState → String
  | .idle => "idle"
  | .connecting => "connecting"
  | .connected => "connected"
  | .disconnecting => "disconnecting"
  | .disconnected => "disconnected"
  | .failed => "failed"

/-- The name as an identifier, for diagnostic text. -/
def identifier : ConnectionState → String
  | .idle => "Idle"
  | .connecting => "Connecting"
  | .connected => "Connected"
  | .disconnecting => "Disconnecting"
  | .disconnected => "Disconnected"
  | .failed => "Failed"

/-- The number that stands for a state in shared memory. -/
def code : ConnectionState → Nat
  | .idle => 0
  | .connecting => 1
  | .connected => 2
  | .disconnecting => 3
  | .disconnected => 4
  | .failed => 5

/-- The state behind a number; one that stands for no state reads as `failed`. -/
def ofCode : Nat → ConnectionState
  | 0 => .idle
  | 1 => .connecting
  | 2 => .connected
  | 3 => .disconnecting
  | 4 => .disconnected
  | _ => .failed

/-- No move leads out of the state. -/
def isTerminal : ConnectionState → Bool
  | .disconnected | .failed => true
  | _ => false

/-- A link to the far end is there or being opened. -/
def hasTransport : ConnectionState → Bool
  | .connecting | .connected | .disconnecting => true
  | _ => false

/-- The moves between states. -/
def canBecome : ConnectionState → ConnectionState → Bool
  | .idle, .connecting => true
  | .connecting, .connected | .connecting, .failed => true
  | .connected, .disconnecting | .connected, .disconnected | .connected, .failed => true
  | .disconnecting, .disconnected => true
  | _, _ => false

/-- The states that one move leads to. -/
def successors (s : ConnectionState) : List ConnectionState := all.filter s.canBecome

/-- Move a connection in state `current` from `source` to `target`. The move has to be one of the
table and the connection has to stand at its source; otherwise the state found is the error. -/
def transition (current source target : ConnectionState) :
    Except ConnectionState ConnectionState :=
  if source.canBecome target && current == source then .ok target else .error current

theorem transition_eq_ok_iff {current source target found : ConnectionState} :
    transition current source target = .ok found ↔
      source.canBecome target = true ∧ current = source ∧ found = target := by
  unfold transition
  split
  · rename_i h
    rw [Bool.and_eq_true, beq_iff_eq] at h
    constructor
    · intro hf
      cases hf
      exact ⟨h.1, h.2, rfl⟩
    · rintro ⟨_, _, rfl⟩
      rfl
  · rename_i h
    rw [Bool.and_eq_true, beq_iff_eq] at h
    constructor
    · intro hf
      cases hf
    · rintro ⟨h₁, h₂, _⟩
      exact absurd ⟨h₁, h₂⟩ h

/-- Every state is read back from its number. -/
theorem ofCode_code (s : ConnectionState) : ofCode s.code = s := by cases s <;> rfl

/-- No move leads out of a terminal state. -/
theorem canBecome_of_isTerminal {s : ConnectionState} (h : s.isTerminal = true)
    (t : ConnectionState) : s.canBecome t = false := by
  cases s <;> cases h <;> rfl

end ConnectionState

end VoiceBridge
