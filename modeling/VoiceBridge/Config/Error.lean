import VoiceBridge.Text.Quoted

/-!
# Faults in settings
-/

namespace VoiceBridge

/-- What is wrong with the settings of a connection or of the service. -/
inductive ConfigError where
  /-- A field that must say something is empty. -/
  | missingField (field : String)
  /-- The path does not begin with a slash. -/
  | invalidPath (path : String)
  /-- The reserve leaves no room for audio. -/
  | reserveTooLarge (reserve capacity : Nat)
  /-- No message could ever be received. -/
  | zeroMessageSize
  /-- A variable of the environment holds no number of seconds. -/
  | invalidEnv (name value : String)
  deriving Repr, DecidableEq

def ConfigError.message : ConfigError → String
  | .missingField field => s!"required field `{field}` is empty"
  | .invalidPath path =>
    let shown := Text.quoted path
    s!"path must start with '/': {shown}"
  | .reserveTooLarge reserve capacity =>
    s!"header reserve {reserve} must be smaller than audio capacity {capacity}"
  | .zeroMessageSize => "max_message_size must be greater than zero"
  | .invalidEnv name value =>
    let shown := Text.quoted value
    s!"environment variable {name} has invalid value {shown}; expected whole seconds"

end VoiceBridge
