import VoiceBridge.Config.Value

/-!
# Tables of a document

A document grows line by line. A header opens a table, or adds one to a list of tables, and a key
with its value goes into the table of the latest header. No key is set twice, and a table that is
complete takes nothing more: `Members.open?`, `Members.push?` and `Members.assign?` refuse what
would change one.
-/

namespace VoiceBridge.Toml

/-- How a table came about, which says what may still be added to it. -/
inductive TableKind where
  /-- It has a header of its own. -/
  | written
  /-- The header of a table inside it was met first. -/
  | implied
  /-- It stands in the middle of a dotted key. -/
  | dotted
  deriving Repr, DecidableEq

/-- What a key of a table is set to. -/
inductive Node where
  | value (v : Value)
  | table (kind : TableKind) (members : List (String × Node))
  | tables (items : List (List (String × Node)))

/-- The keys of a table in the order of their first mention. -/
abbrev Members := List (String × Node)

namespace Node

mutual

def toValue : Node → Value
  | value v => v
  | table _ members => .record (memberValues members)
  | tables items => .list (itemValues items)

def memberValues : List (String × Node) → List (String × Value)
  | [] => []
  | m :: rest => pairValue m :: memberValues rest

def pairValue : String × Node → String × Value
  | (key, n) => (key, n.toValue)

def itemValues : List (List (String × Node)) → List Value
  | [] => []
  | members :: rest => .record (memberValues members) :: itemValues rest

end

/-- The keys to which a longer path leads. In a list of tables that is the latest one. -/
def inner? : Node → Option Members
  | value _ => none
  | table _ members => some members
  | tables items => some (items.getLast?.getD [])

/-- Put other keys where `inner?` finds them. -/
def refill (n : Node) (members : Members) : Node :=
  match n with
  | value v => value v
  | table kind _ => table kind members
  | tables items => tables (items.dropLast ++ [members])

/-- A dotted key may lead through the node, or end in it where `ends` holds. -/
def takesDotted (ends : Bool) : Node → Bool
  | value _ => false
  | table .written _ => false
  | table .implied _ => !ends
  | table .dotted _ => true
  | tables _ => !ends

end Node

namespace Members

/-- Set a key that may be there already. -/
def put (key : String) (n : Node) : Members → Members
  | [] => [(key, n)]
  | m :: rest => if m.1 = key then (key, n) :: rest else m :: put key n rest

/-- Set a key behind dotted ones. -/
def assign? (key : String) (v : Value) : (path : List String) → Members → Option Members
  | [], members => if (members.lookup key).isSome then none else some (members.put key (.value v))
  | first :: path, members =>
    let n := (members.lookup first).getD (.table .dotted [])
    if n.takesDotted path.isEmpty then do
      let inner ← assign? key v path (← n.inner?)
      return members.put first (n.refill inner)
    else none

/-- Change the table to which the keys of a header lead. -/
def under? (f : Members → Option Members) : (path : List String) → Members → Option Members
  | [], members => f members
  | first :: path, members => do
    let n := (members.lookup first).getD (.table .implied [])
    let inner ← under? f path (← n.inner?)
    return members.put first (n.refill inner)

/-- Open a table by its header, which only headers of tables inside it may have mentioned before. -/
def open? (key : String) (members : Members) : Option Members :=
  match members.lookup key with
  | none => some (members.put key (.table .written []))
  | some (.table .implied inner) => some (members.put key (.table .written inner))
  | some _ => none

/-- Add a table to a list of tables. -/
def push? (key : String) (members : Members) : Option Members :=
  match members.lookup key with
  | none => some (members.put key (.tables [[]]))
  | some (.tables items) => some (members.put key (.tables (items ++ [[]])))
  | some _ => none

/-- The table as a value. -/
def toValue (members : Members) : Value := .record (Node.memberValues members)

end Members

end VoiceBridge.Toml
