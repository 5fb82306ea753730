import VoiceBridge.Text.Hidden

/-!
# Quoted text

Paths, user names and values of the environment are shown between double quotes, so that a message
never breaks its line: quotes and backslashes are escaped, four controls have a letter, and every
other hidden character is written by its number.
-/

namespace VoiceBridge.Text

/-- One character as it stands between the quotes. -/
def escape (c : Char) : List Char :=
  match c with
  | '\x00' => ['\\', '0']
  | '\t' => ['\\', 't']
  | '\r' => ['\\', 'r']
  | '\n' => ['\\', 'n']
  | '"' => ['\\', '"']
  | '\\' => ['\\', '\\']
  | c => if isHidden c then '\\' :: 'u' :: '\x7b' :: Nat.toDigits 16 c.toNat ++ ['\x7d'] else [c]

/-- A text between double quotes, escaped. -/
def quoted (s : String) : String :=
  String.ofList ('"' :: s.toList.flatMap escape ++ ['"'])

end VoiceBridge.Text
