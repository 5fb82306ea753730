import VoiceBridge.Toml.Blank

/-!
# Texts of a document

A text stands between quotes, with escapes between double quotes and without between single ones.
Between three quotes it may run over several lines: a line end right behind the opening quotes does
not count, and up to two quotes may stand in front of the closing ones.
-/

namespace VoiceBridge.Toml

/-- The value of a hexadecimal digit. -/
def hexDigit? (c : Char) : Option Nat :=
  if '0' ≤ c ∧ c ≤ '9' then some (c.toNat - '0'.toNat)
  else if 'a' ≤ c ∧ c ≤ 'f' then some (c.toNat - 'a'.toNat + 10)
  else if 'A' ≤ c ∧ c ≤ 'F' then some (c.toNat - 'A'.toNat + 10)
  else none

/-- The character for which a backslash and a letter stand. -/
def escaped? : Char → Option Char
  | 'b' => some '\x08'
  | 't' => some '\t'
  | 'n' => some '\n'
  | 'f' => some '\x0c'
  | 'r' => some '\r'
  | '"' => some '"'
  | '\\' => some '\\'
  | _ => none

/-- Three closing quotes, with what belongs to the text of up to two quotes before them. -/
def tripleEnd? (quote : Char) : Reader (List Char) := fun s =>
  let run := (s.take 5).takeWhile (· == quote)
  if 3 ≤ run.length then some (run.drop 3, s.drop run.length) else none

/-- The end of a text, with quotes of the text before it. -/
def textEnd? (quote : Char) (multiline : Bool) : Reader (List Char) := fun s =>
  if multiline then tripleEnd? quote s
  else match s with
    | c :: rest => if c = quote then some ([], rest) else none
    | [] => none

/-- Where a reader of text between double quotes stands. -/
inductive EscapeState where
  | plain
  /-- Behind a backslash. -/
  | open
  /-- So many digits of a code point are missing. -/
  | code (missing acc : Nat)
  /-- Behind a backslash at the end of a line, which joins it to the next words. -/
  | joining (lineEnded : Bool)
  deriving Repr, DecidableEq

/-- One more character in front of the text of a reading. -/
def withChar (c : Char) (r : Option (List Char × List Char)) : Option (List Char × List Char) :=
  r.map fun (text, rest) => (c :: text, rest)

/-- Text up to the closing double quotes. -/
def basicFrom? (multiline : Bool) (state : EscapeState) : Reader (List Char)
  | [] => none
  | c :: rest =>
    let isSpace := isBlank c || c == '\n'
    match if state = .joining true ∧ !isSpace then .plain else state with
    | .plain =>
      match textEnd? '"' multiline (c :: rest) with
      | some done => some done
      | none =>
        if c = '\\' then basicFrom? multiline .open rest
        else if isPrintable c || (multiline && c == '\n') then
          withChar c (basicFrom? multiline .plain rest)
        else none
    | .open =>
      if c = 'u' then basicFrom? multiline (.code 4 0) rest
      else if c = 'U' then basicFrom? multiline (.code 8 0) rest
      else if multiline && isSpace then basicFrom? multiline (.joining (c == '\n')) rest
      else match escaped? c with
        | some d => withChar d (basicFrom? multiline .plain rest)
        | none => none
    | .code missing acc =>
      match hexDigit? c with
      | none => none
      | some d =>
        let acc := 16 * acc + d
        if 1 < missing then basicFrom? multiline (.code (missing - 1) acc) rest
        else if acc.isValidChar then
          withChar (Char.ofNat acc) (basicFrom? multiline .plain rest)
        else none
    | .joining lineEnded =>
      if isSpace then basicFrom? multiline (.joining (lineEnded || c == '\n')) rest else none

/-- Text up to the closing single quotes. -/
def literal? (multiline : Bool) : Reader (List Char)
  | [] => none
  | c :: rest =>
    match textEnd? '\'' multiline (c :: rest) with
    | some done => some done
    | none =>
      if isPrintable c || (multiline && c == '\n') then withChar c (literal? multiline rest)
      else none

/-- A line end right behind the opening quotes does not count. -/
def skipLineEnd : List Char → List Char
  | '\n' :: rest => rest
  | s => s

/-- A text on one line. -/
def lineText? : Reader (List Char)
  | '"' :: rest => basicFrom? false .plain rest
  | '\'' :: rest => literal? false rest
  | _ => none

/-- A text. -/
def text? : Reader (List Char)
  | '"' :: '"' :: '"' :: rest => basicFrom? true .plain (skipLineEnd rest)
  | '\'' :: '\'' :: '\'' :: rest => literal? true (skipLineEnd rest)
  | s => lineText? s

end VoiceBridge.Toml
