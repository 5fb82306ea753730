import VoiceBridge.Codec.Base64
import VoiceBridge.Text.Quoted

/-!
# Credentials

How a connection proves who it is in the `Authorization` header of its upgrade request.
-/

namespace VoiceBridge

inductive Credentials where
  | none
  | basic (username password : String)
  | bearer (apiKey : String)
  deriving Repr, DecidableEq, Inhabited

namespace Credentials

/-- The value of the `Authorization` header. -/
def header : Credentials → Option String
  | none => .none
  | basic username password =>
    some ("Basic " ++ Base64.encode (Text.utf8 (username ++ ":" ++ password)))
  | bearer apiKey => some ("Bearer " ++ apiKey)

/-- A form for diagnostics in which the secrets are covered. -/
def shown : Credentials → String
  | none => "None"
  | basic username _ =>
    "Basic \x7b username: " ++ Text.quoted username ++ ", password: \"<redacted>\" \x7d"
  | bearer _ => "Bearer \x7b api_key: \"<redacted>\" \x7d"

end Credentials

end VoiceBridge
