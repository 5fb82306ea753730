import VoiceBridge.Toml.Key
import VoiceBridge.Toml.Moment
import VoiceBridge.Toml.Number
import VoiceBridge.Toml.Table

/-!
# Values of a document

A value is a text, a number, a date or time, a truth value, a list, which may run over several
lines, or a table in braces, which may not. Lists and tables are nested to a limited depth.
-/

namespace VoiceBridge.Toml

/-- A value that holds no others. -/
def scalar? : Reader Value := fun s =>
  match s with
  | 't' :: 'r' :: 'u' :: 'e' :: rest => some (.bool true, rest)
  | 'f' :: 'a' :: 'l' :: 's' :: 'e' :: rest => some (.bool false, rest)
  | s =>
    match text? s with
    | some (text, rest) => some (.text (String.ofList text), rest)
    | none =>
      match moment? s with
      | some rest => some (.moment (String.ofList (s.take (s.length - rest.length))), rest)
      | none => number? s

/-- The items of a list up to its closing bracket. A comma may follow the last one. -/
def itemsFor? (item : Reader Value) : (fuel : Nat) → Reader (List Value)
  | 0, _ => none
  | fuel + 1, s =>
    match skipLines s with
    | ']' :: rest => some ([], rest)
    | s => do
      let (v, s) ← item s
      match skipLines s with
      | ',' :: s =>
        let (vs, s) ← itemsFor? item fuel s
        return (v :: vs, s)
      | ']' :: s => return ([v], s)
      | _ => none

/-- A key and its value, between which an equals sign stands. -/
def pair? (item : Reader Value) : Reader (List String × Value) := fun s => do
  let (key, s) ← key? s
  let (v, s) ← item (skipBlank (← skip? '=' s))
  return ((key, v), s)

/-- The pairs of a table in braces up to its closing brace. No comma follows the last one. -/
def pairsFor? (item : Reader Value) : (fuel : Nat) → Reader (List (List String × Value))
  | 0, _ => none
  | fuel + 1, s => do
    let (p, s) ← pair? item s
    match skipBlank s with
    | ',' :: s =>
      let (ps, s) ← pairsFor? item fuel s
      return (p :: ps, s)
    | '\x7d' :: s => return ([p], s)
    | _ => none

/-- Set the key of a pair. -/
def Members.assignPair? (members : Members) (p : List String × Value) : Option Members := do
  members.assign? (← p.1.getLast?) p.2 p.1.dropLast

/-- A table in braces, behind its opening brace. -/
def braced? (item : Reader Value) : Reader Value := fun s =>
  match skipBlank s with
  | '\x7d' :: rest => some (.record [], rest)
  | s => do
    let (pairs, rest) ← pairsFor? item s.length s
    let members ← pairs.foldlM Members.assignPair? []
    return (members.toValue, rest)

/-- A value in which lists and tables are nested no deeper than `depth`. -/
def valueIn? : (depth : Nat) → Reader Value
  | 0, s => scalar? s
  | depth + 1, s =>
    match s with
    | '[' :: rest => do
      let (items, rest) ← itemsFor? (valueIn? depth) s.length rest
      return (.list items, rest)
    | '\x7b' :: rest => braced? (valueIn? depth) rest
    | s => scalar? s

/-- How deep lists and tables may be nested. -/
def maxDepth : Nat := 79

/-- A value. -/
def value? : Reader Value := valueIn? maxDepth

end VoiceBridge.Toml
