import VoiceBridge.Toml.Item

/-!
# Documents

A document is a sequence of lines: headers, pairs of a key and a value, and lines without content.
`Document.parse?` reads one and answers the record it denotes.
-/

namespace VoiceBridge.Toml

/-- What a line holds. A value may make a line longer than it looks. -/
inductive Line where
  | blank
  | header (key : List String)
  /-- The header of one more table in a list of tables. -/
  | listHeader (key : List String)
  | pair (key : List String) (v : Value)

/-- What the lines so far say. -/
structure Document where
  members : Members := []
  /-- The key of the latest header. -/
  current : List String := []

/-- Read a line to its end. -/
def Line.read? : Reader Line := fun s =>
  match s with
  | '[' :: '[' :: rest => do
    let (key, s) ← key? rest
    return (.listHeader key, ← lineEnd? (← skip? ']' (← skip? ']' s)))
  | '[' :: rest => do
    let (key, s) ← key? rest
    return (.header key, ← lineEnd? (← skip? ']' s))
  | s =>
    match lineEnd? s with
    | some rest => some (.blank, rest)
    | none => do
      let ((key, v), s) ← pair? value? s
      return (.pair key v, ← lineEnd? s)

namespace Document

/-- Go to another table, with a change to the table that has it. -/
def enter? (d : Document) (f : String → Members → Option Members) (key : List String) :
    Option Document := do
  let members ← d.members.under? (f (← key.getLast?)) key.dropLast
  return { members, current := key }

/-- Take in a line. -/
def add? (d : Document) : Line → Option Document
  | .blank => some d
  | .header key => d.enter? Members.open? key
  | .listHeader key => d.enter? Members.push? key
  | .pair key v => do
    let members ← d.members.under? (·.assignPair? (key, v)) d.current
    return { d with members }

/-- Take in all lines of a text of fewer than `fuel` characters. -/
def addAllFor? : (fuel : Nat) → Document → List Char → Option Document
  | 0, _, _ => none
  | _ + 1, d, [] => some d
  | fuel + 1, d, s => do
    let (line, rest) ← Line.read? (skipBlank s)
    addAllFor? fuel (← d.add? line) rest

/-- A byte order mark may stand in front of a document. -/
def skipMark : List Char → List Char
  | '\uFEFF' :: rest => rest
  | s => s

/-- The record that a document denotes. -/
def parse? (s : String) : Option Value :=
  let text := joinLineEnds (skipMark s.toList)
  (addAllFor? (text.length + 1) {} text).map (·.members.toValue)

end Document

end VoiceBridge.Toml
