import VoiceBridge.Text.Bytes

/-!
# Inbound fragments

A message arrives in one or more fragments. `Fragment.split` cuts a payload into fragments of equal
length, the last of which takes what is left.
-/

namespace VoiceBridge

/-- What a data message carries. -/
inductive PayloadKind where
  | text
  | binary
  deriving Repr, DecidableEq, Inhabited

/-- A piece of a data message. -/
structure Fragment where
  kind : PayloadKind
  payload : Bytes
  isFirst : Bool
  isFinal : Bool
  /-- The sender's estimate of the payload bytes still to come. -/
  remaining : Nat
  deriving Repr, DecidableEq

namespace Fragment

/-- A message of one fragment. -/
def whole (kind : PayloadKind) (payload : Bytes) : Fragment :=
  { kind, payload, isFirst := true, isFinal := true, remaining := 0 }

/-- A text message of one fragment. -/
def text (s : String) : Fragment := whole .text (Text.utf8 s)

/-- The fragments of `rest`, of `chunk` bytes each but for the last; `first` marks the head. -/
def cut (kind : PayloadKind) (chunk : Nat) : (parts : Nat) → (first : Bool) → Bytes → List Fragment
  | 0, _, _ => []
  | 1, first, rest =>
    [{ kind, payload := rest, isFirst := first, isFinal := true, remaining := 0 }]
  | parts + 2, first, rest =>
    let tail := rest.drop chunk
    { kind, payload := rest.take chunk, isFirst := first, isFinal := false, remaining := tail.length }
      :: cut kind chunk (parts + 1) false tail

theorem length_cut (kind : PayloadKind) (chunk parts : Nat) (first : Bool) (rest : Bytes) :
    (cut kind chunk parts first rest).length = parts := by
  fun_induction cut kind chunk parts first rest with
  | case1 => rfl
  | case2 => rfl
  | case3 parts first rest tail ih => rw [List.length_cons, ih]

/-- The fragments carry the whole payload. -/
theorem flatten_payload_cut (kind : PayloadKind) (chunk parts : Nat) (first : Bool) (rest : Bytes)
    (h : 0 < parts) : ((cut kind chunk parts first rest).map payload).flatten = rest := by
  fun_induction cut kind chunk parts first rest with
  | case1 => cases h
  | case2 first rest => exact List.append_nil rest
  | case3 parts first rest tail ih =>
    rw [List.map_cons, List.flatten_cons, ih (Nat.succ_pos _)]
    exact List.take_append_drop chunk rest

/-- The length of all fragments but the last: the payload shared out evenly, rounded up, and at
least one byte. -/
def chunkLength (length parts : Nat) : Nat := max ((length + parts - 1) / parts) 1

/-- A payload as one message of `max parts 1` fragments. -/
def split (kind : PayloadKind) (payload : Bytes) (parts : Nat) : List Fragment :=
  let parts := max parts 1
  cut kind (chunkLength payload.length parts) parts true payload

theorem length_split (kind : PayloadKind) (payload : Bytes) (parts : Nat) :
    (split kind payload parts).length = max parts 1 := length_cut ..

end Fragment

end VoiceBridge
