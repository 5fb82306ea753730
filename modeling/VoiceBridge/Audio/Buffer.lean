import VoiceBridge.Text.Bytes

/-!
# The outbound audio buffer

A buffer of fixed capacity collects PCM until the network takes it as one frame. Its first `reserve`
cells are never filled with audio, and `cursor` stands behind the last pending byte.

A chunk is kept whole or not at all: one that does not fit behind the pending audio empties the
buffer and is stored only if it fits into the emptied one. The first such overrun of a cycle asks
for a notice.
-/

namespace VoiceBridge

/-- What can go wrong with an audio buffer. -/
inductive BufferError where
  /-- The reserve leaves no room for audio. -/
  | reserveTooLarge (reserve capacity : Nat)
  /-- More bytes were committed than there was room for. -/
  | overflow (requested available : Nat)
  deriving Repr, DecidableEq

def BufferError.message : BufferError → String
  | .reserveTooLarge reserve capacity =>
    s!"header reserve {reserve} must be smaller than capacity {capacity}"
  | .overflow requested available =>
    s!"cannot advance by {requested} bytes; only {available} available"

/-- What became of one chunk of audio. -/
inductive WriteOutcome where
  /-- The chunk was stored behind the pending audio. -/
  | written (count : Nat)
  /-- The buffer was emptied. `dropped` counts the bytes lost, those of the chunk included if it did
  not fit either, and `notify` holds for the first overrun of a cycle. -/
  | overrun (dropped written : Nat) (notify : Bool)
  deriving Repr, DecidableEq

/-- The number of bytes of the chunk that were stored. -/
def WriteOutcome.stored : WriteOutcome → Nat
  | .written n => n
  | .overrun _ n _ => n

structure AudioBuffer where
  /-- All cells, `capacity` of them; those behind the cursor keep what was last written there. -/
  cells : Bytes
  capacity : Nat
  reserve : Nat
  cursor : Nat
  /-- Free space below this counts as low. -/
  lowSpace : Nat := 0
  /-- An overrun of this cycle has asked for its notice. -/
  overrunReported : Bool := false
  deriving Repr, DecidableEq

namespace AudioBuffer

/-- An empty buffer of zeros. -/
def create (capacity reserve : Nat) : Except BufferError AudioBuffer :=
  if capacity ≤ reserve then .error (.reserveTooLarge reserve capacity)
  else .ok { cells := List.replicate capacity 0, capacity, reserve, cursor := reserve }

/-- The same buffer with another level of low space. -/
def withLowSpace (b : AudioBuffer) (level : Nat) : AudioBuffer := { b with lowSpace := level }

/-- Bytes that fit before an overrun. -/
def space (b : AudioBuffer) : Nat := b.capacity - b.cursor

/-- Bytes waiting to be sent. -/
def pendingLength (b : AudioBuffer) : Nat := b.cursor - b.reserve

def hasPending (b : AudioBuffer) : Bool := b.reserve < b.cursor

def isLow (b : AudioBuffer) : Bool := b.space < b.lowSpace

/-- The bytes waiting to be sent. -/
def pending (b : AudioBuffer) : Bytes := (b.cells.take b.cursor).drop b.reserve

/-- Drop the pending audio. -/
def reset (b : AudioBuffer) : AudioBuffer := { b with cursor := b.reserve }

/-- Start a cycle: drop the pending audio and arm the overrun notice. -/
def beginCycle (b : AudioBuffer) : AudioBuffer := { b.reset with overrunReported := false }

/-- The cells with `bytes` laid over them from the cursor on. -/
def overlay (b : AudioBuffer) (bytes : Bytes) : Bytes :=
  b.cells.take b.cursor ++ bytes ++ b.cells.drop (b.cursor + bytes.length)

/-- Store bytes that fit behind the pending audio. -/
def append (b : AudioBuffer) (bytes : Bytes) : AudioBuffer :=
  { b with cells := b.overlay bytes, cursor := b.cursor + bytes.length }

/-- Take in one chunk, or overrun. -/
def write (b : AudioBuffer) (chunk : Bytes) : WriteOutcome × AudioBuffer :=
  if chunk.length ≤ b.space then (.written chunk.length, b.append chunk)
  else
    let emptied := b.reset
    let notify := !b.overrunReported
    if chunk.length ≤ emptied.space then
      (.overrun b.pendingLength chunk.length notify,
        { emptied.append chunk with overrunReported := true })
    else
      (.overrun (b.pendingLength + chunk.length) 0 notify, { emptied with overrunReported := true })

/-- The cells from the cursor on, for a producer that decodes straight into the buffer. -/
def slot (b : AudioBuffer) : Bytes := b.cells.drop b.cursor

/-- Lay as many of the bytes as fit into the slot, without committing any. -/
def fillSlot (b : AudioBuffer) (bytes : Bytes) : AudioBuffer :=
  { b with cells := b.overlay (bytes.take b.slot.length) }

/-- Commit `n` bytes of the slot. A count beyond the free space is an error and leaves the cursor at
the capacity. -/
def advance (b : AudioBuffer) (n : Nat) : Except BufferError Unit × AudioBuffer :=
  if b.space < n then (.error (.overflow n b.space), { b with cursor := b.capacity })
  else (.ok (), { b with cursor := b.cursor + n })

/-- Take all pending audio, if there is any. -/
def takePending (b : AudioBuffer) : Option Bytes × AudioBuffer :=
  if b.hasPending then (some b.pending, b.reset) else (none, b)

/-- The cursor lies between the reserve and the capacity, and there are as many cells as the
capacity says. -/
structure IsSound (b : AudioBuffer) : Prop where
  reserve_le : b.reserve ≤ b.cursor
  cursor_le : b.cursor ≤ b.capacity
  length_cells : b.cells.length = b.capacity

theorem IsSound.of_create {capacity reserve : Nat} {b : AudioBuffer}
    (h : create capacity reserve = .ok b) : b.IsSound := by
  unfold create at h
  split at h
  · cases h
  · rename_i hr
    cases h
    exact ⟨Nat.le_refl _, Nat.le_of_not_le hr, List.length_replicate⟩

theorem IsSound.reset {b : AudioBuffer} (h : b.IsSound) : b.reset.IsSound :=
  ⟨Nat.le_refl _, Nat.le_trans h.reserve_le h.cursor_le, h.length_cells⟩

/-- Bytes that fit take the place of as many cells. -/
theorem length_overlay {b : AudioBuffer} (h : b.IsSound) {bytes : Bytes}
    (hb : bytes.length ≤ b.space) : (b.overlay bytes).length = b.capacity := by
  have h₁ := h.cursor_le
  have h₂ := h.length_cells
  unfold space at hb
  rw [overlay, List.length_append, List.length_append, List.length_take, List.length_drop, h₂]
  omega

theorem IsSound.append {b : AudioBuffer} (h : b.IsSound) {bytes : Bytes}
    (hb : bytes.length ≤ b.space) : (b.append bytes).IsSound where
  reserve_le := Nat.le_trans h.reserve_le (Nat.le_add_right _ _)
  cursor_le := by
    have h₁ := h.cursor_le
    unfold space at hb
    change b.cursor + bytes.length ≤ b.capacity
    omega
  length_cells := length_overlay h hb

theorem pending_reset (b : AudioBuffer) : b.reset.pending = [] := by
  rw [pending, List.drop_eq_nil_iff]
  exact List.length_take_le _ _

theorem length_pending {b : AudioBuffer} (h : b.IsSound) : b.pending.length = b.pendingLength := by
  rw [pending, List.length_drop, List.length_take, h.length_cells, Nat.min_eq_left h.cursor_le,
    pendingLength]

/-- Bytes that fit queue up behind the pending audio. -/
theorem pending_append {b : AudioBuffer} (h : b.IsSound) {bytes : Bytes} :
    (b.append bytes).pending = b.pending ++ bytes := by
  have h₁ : (b.cells.take b.cursor).length = b.cursor := by
    rw [List.length_take, h.length_cells, Nat.min_eq_left h.cursor_le]
  have h₂ : (b.cells.take b.cursor ++ bytes).length = b.cursor + bytes.length := by
    rw [List.length_append, h₁]
  change (List.take (b.cursor + bytes.length) (b.overlay bytes)).drop b.reserve = _
  rw [overlay, ← h₂, List.take_left, List.drop_append_of_le_length (by rw [h₁]; exact h.reserve_le)]
  rfl

end AudioBuffer

end VoiceBridge
