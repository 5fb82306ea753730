/-!
# Setting values

Settings come as values of a small data language that JSON and TOML texts both denote. A record
keeps its members in the order of writing, and `Value.json` writes a value as compact JSON.
-/

namespace VoiceBridge

/-- A value in settings. -/
inductive Value where
  | null
  | bool (b : Bool)
  | int (n : Int)
  /-- A number that is not whole, as written. -/
  | real (literal : String)
  | text (s : String)
  /-- A date or a time of day, as written. -/
  | moment (literal : String)
  | list (items : List Value)
  | record (members : List (String × Value))
  deriving Inhabited

namespace Value

/-- A number in four hexadecimal digits. -/
def hex4 (n : Nat) : List Char :=
  [n / 4096 % 16, n / 256 % 16, n / 16 % 16, n % 16].map Nat.digitChar

/-- A character inside a JSON string. -/
def escape (c : Char) : List Char :=
  if c = '"' then ['\\', '"']
  else if c = '\\' then ['\\', '\\']
  else if c.toNat = 8 then ['\\', 'b']
  else if c = '\t' then ['\\', 't']
  else if c = '\n' then ['\\', 'n']
  else if c.toNat = 12 then ['\\', 'f']
  else if c = '\r' then ['\\', 'r']
  else if c.toNat < 32 then '\\' :: 'u' :: hex4 c.toNat
  else [c]

/-- A JSON string with its quotes. -/
def jsonText (s : String) : List Char := '"' :: s.toList.flatMap escape ++ ['"']

mutual

/-- The compact JSON form. -/
def jsonChars : Value → List Char
  | null => "null".toList
  | bool b => (if b then "true" else "false").toList
  | int n => (toString n).toList
  | real literal => literal.toList
  | text s => jsonText s
  | moment literal => jsonText literal
  | list items => '[' :: itemChars items ++ [']']
  | record members => '\x7b' :: memberChars members ++ ['\x7d']

/-- Items with commas between them. -/
def itemChars : List Value → List Char
  | [] => []
  | [v] => jsonChars v
  | v :: rest => jsonChars v ++ ',' :: itemChars rest

/-- Members with commas between them. -/
def memberChars : List (String × Value) → List Char
  | [] => []
  | [m] => pairChars m
  | m :: rest => pairChars m ++ ',' :: memberChars rest

/-- One member of a record. -/
def pairChars : String × Value → List Char
  | (key, v) => jsonText key ++ ':' :: jsonChars v

end

/-- The value as compact JSON text. -/
def json (v : Value) : String := String.ofList v.jsonChars

/-- The text that a value is. -/
def text? : Value → Option String
  | text s => some s
  | _ => none

/-- The truth value that a value is. -/
def bool? : Value → Option Bool
  | bool b => some b
  | _ => none

/-- The whole number from 0 to below `bound` that a value is. -/
def natBelow? (bound : Nat) : Value → Option Nat
  | int (.ofNat n) => if n < bound then some n else none
  | _ => none

end Value

end VoiceBridge
