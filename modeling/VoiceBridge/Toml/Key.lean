import VoiceBridge.Toml.Text

/-!
# Keys of a document

A key is a row of names with dots between them. A name without quotes has ASCII letters, digits,
underscores and hyphens.
-/

namespace VoiceBridge.Toml

def isBare (c : Char) : Bool := c.isAlphanum || c == '_' || c == '-'

/-- One name of a key. -/
def name? : Reader String := fun s =>
  match lineText? s with
  | some (name, rest) => some (String.ofList name, rest)
  | none =>
    match s.takeWhile isBare with
    | [] => none
    | name => some (String.ofList name, s.dropWhile isBare)

/-- A row of at most `fuel` names, around each of which blanks may stand. -/
def namesFor? : (fuel : Nat) → Reader (List String)
  | 0, _ => none
  | fuel + 1, s => do
    let (name, s) ← name? (skipBlank s)
    match skipBlank s with
    | '.' :: s =>
      let (names, s) ← namesFor? fuel s
      return (name :: names, s)
    | s => return ([name], s)

/-- The most names a key may have. -/
def maxNames : Nat := 79

/-- A key. -/
def key? : Reader (List String) := namesFor? maxNames

end VoiceBridge.Toml
