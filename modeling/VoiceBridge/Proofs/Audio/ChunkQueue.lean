import Mathlib.Algebra.Order.Ring.Nat
import Mathlib.Data.List.Basic
import VoiceBridge.Proofs.Audio.Buffer

/-!
# The audio buffer is a queue of whole chunks

Seen from outside, an audio buffer is a list of chunks whose bytes together do not exceed the cells
behind the reserve. `ChunkQueue` is that list; a buffer represents it when the bytes between reserve
and cursor are the chunks strung together (`Represents`). What the cells behind the cursor hold, which
is left over from emptied chunks and from slots filled but not committed, has no part in it.

Each operation gives the same answer on both sides and keeps the representation. The list never cuts a
chunk, so what is taken from a buffer is always made of whole chunks (`frames_of_groups`).
-/

namespace VoiceBridge

/-- What a producer or a driver does with an audio buffer. -/
inductive AudioOp where
  | write (chunk : Bytes)
  /-- Copy as many of the bytes as fit into the slot and commit up to `count` of those. -/
  | slot (bytes : Bytes) (count : Nat)
  | take
  | reset
  | beginCycle
  deriving Repr, DecidableEq

/-- What the buffer answers. -/
inductive AudioAnswer where
  | wrote (outcome : WriteOutcome)
  | committed (result : Except BufferError Unit)
  | took (frame : Option Bytes)
  | done
  deriving DecidableEq

namespace AudioOp

/-- The chunk that a producer commits where `space` bytes fit. -/
def slotChunk (bytes : Bytes) (count space : Nat) : Bytes := (bytes.take space).take count

theorem length_slotChunk_le (bytes : Bytes) (count space : Nat) :
    (slotChunk bytes count space).length ≤ space := by
  simp only [slotChunk, List.length_take]
  omega

/-- Operations one after the other, and the answers to them. -/
def run {σ : Type} (perform : σ → AudioOp → AudioAnswer × σ) (s : σ) :
    List AudioOp → List AudioAnswer × σ
  | [] => ([], s)
  | op :: ops =>
    let rest := run perform (perform s op).2 ops
    ((perform s op).1 :: rest.1, rest.2)

end AudioOp

/-- The frame that was taken, if one was. -/
def AudioAnswer.frame? : AudioAnswer → Option Bytes
  | took frame => frame
  | _ => none

/-- Chunks of no more than `room` bytes together. -/
structure ChunkQueue (room : Nat) where
  chunks : List Bytes := []
  fits : chunks.flatten.length ≤ room := by simp
  /-- An overrun of this cycle has asked for its notice. -/
  overrunReported : Bool := false

namespace ChunkQueue

variable {room : Nat}

/-- The bytes of all chunks. -/
def bytes (q : ChunkQueue room) : Bytes := q.chunks.flatten

def space (q : ChunkQueue room) : Nat := room - q.bytes.length

/-- Queue up a chunk for which there is space. -/
def push (q : ChunkQueue room) (chunk : Bytes) (h : chunk.length ≤ q.space) : ChunkQueue room where
  chunks := q.chunks ++ [chunk]
  fits := by
    have hfits := q.fits
    simp only [space, bytes] at h
    simp only [List.flatten_append, List.flatten_singleton, List.length_append]
    omega
  overrunReported := q.overrunReported

def reset (q : ChunkQueue room) : ChunkQueue room := { overrunReported := q.overrunReported }

/-- Note that an overrun has asked for its notice. -/
def report (q : ChunkQueue room) : ChunkQueue room := { q with overrunReported := true }

@[simp] theorem chunks_push (q : ChunkQueue room) (chunk : Bytes) (h : chunk.length ≤ q.space) :
    (q.push chunk h).chunks = q.chunks ++ [chunk] := rfl

@[simp] theorem chunks_reset (q : ChunkQueue room) : q.reset.chunks = [] := rfl

@[simp] theorem chunks_report (q : ChunkQueue room) : q.report.chunks = q.chunks := rfl

def write (q : ChunkQueue room) (chunk : Bytes) : WriteOutcome × ChunkQueue room :=
  if h : chunk.length ≤ q.space then (.written chunk.length, q.push chunk h)
  else if h : chunk.length ≤ q.reset.space then
    (.overrun q.bytes.length chunk.length (!q.overrunReported), (q.reset.push chunk h).report)
  else (.overrun (q.bytes.length + chunk.length) 0 (!q.overrunReported), q.reset.report)

def perform (q : ChunkQueue room) : AudioOp → AudioAnswer × ChunkQueue room
  | .write chunk => (.wrote (q.write chunk).1, (q.write chunk).2)
  | .slot bytes count =>
    (.committed (.ok ()),
      q.push (AudioOp.slotChunk bytes count q.space) (AudioOp.length_slotChunk_le bytes count q.space))
  | .take => (.took (if q.bytes = [] then none else some q.bytes), q.reset)
  | .reset => (.done, q.reset)
  | .beginCycle => (.done, {})

end ChunkQueue

namespace AudioBuffer

def perform (b : AudioBuffer) : AudioOp → AudioAnswer × AudioBuffer
  | .write chunk => (.wrote (b.write chunk).1, (b.write chunk).2)
  | .slot bytes count =>
    let advanced := (b.fillSlot bytes).advance (AudioOp.slotChunk bytes count b.space).length
    (.committed advanced.1, advanced.2)
  | .take => (.took b.takePending.1, b.takePending.2)
  | .reset => (.done, b.reset)
  | .beginCycle => (.done, b.beginCycle)

/-- The chunk that an operation stores. -/
def stored (b : AudioBuffer) : AudioOp → List Bytes
  | .write chunk => if (b.write chunk).1.stored = chunk.length then [chunk] else []
  | .slot bytes count => [AudioOp.slotChunk bytes count b.space]
  | _ => []

/-- The chunks that operations store, in order. -/
def storedChunks (b : AudioBuffer) : List AudioOp → List Bytes
  | [] => []
  | op :: ops => b.stored op ++ (b.perform op).2.storedChunks ops

/-- The buffer holds the chunks of the queue between its reserve and its cursor. -/
structure Represents {room : Nat} (b : AudioBuffer) (q : ChunkQueue room) : Prop where
  sound : b.IsSound
  capacity_eq : b.capacity = b.reserve + room
  pending_eq : b.pending = q.bytes
  overrunReported_eq : b.overrunReported = q.overrunReported

variable {room : Nat} {b : AudioBuffer} {q : ChunkQueue room}

theorem Represents.pendingLength_eq (h : b.Represents q) : b.pendingLength = q.bytes.length := by
  rw [← length_pending h.sound, h.pending_eq]

theorem Represents.space_eq (h : b.Represents q) : b.space = q.space := by
  have hcursor := h.pendingLength_eq
  have hreserve := h.sound.reserve_le
  have hcapacity := h.capacity_eq
  simp only [pendingLength] at hcursor
  simp only [space, ChunkQueue.space]
  omega

theorem Represents.reset (h : b.Represents q) : b.reset.Represents q.reset :=
  ⟨h.sound.reset, h.capacity_eq, by simp [pending_reset, ChunkQueue.reset, ChunkQueue.bytes],
    h.overrunReported_eq⟩

theorem Represents.push (h : b.Represents q) {chunk : Bytes} (hfits : chunk.length ≤ q.space) :
    (b.append chunk).Represents (q.push chunk hfits) := by
  have hspace : chunk.length ≤ b.space := by rwa [h.space_eq]
  exact ⟨h.sound.append hspace, h.capacity_eq,
    by simp [pending_append h.sound, h.pending_eq, ChunkQueue.push, ChunkQueue.bytes],
    h.overrunReported_eq⟩

theorem Represents.report (h : b.Represents q) :
    Represents { b with overrunReported := true } q.report :=
  ⟨⟨h.sound.reserve_le, h.sound.cursor_le, h.sound.length_cells⟩, h.capacity_eq, h.pending_eq, rfl⟩

theorem Represents.write (h : b.Represents q) (chunk : Bytes) :
    (b.write chunk).1 = (q.write chunk).1 ∧ (b.write chunk).2.Represents (q.write chunk).2 := by
  rw [AudioBuffer.write, ChunkQueue.write]
  simp only [h.space_eq, h.reset.space_eq]
  by_cases hfits : chunk.length ≤ q.space
  · simpa [hfits] using h.push hfits
  · by_cases halone : chunk.length ≤ q.reset.space
    · simpa [hfits, halone, h.pendingLength_eq, h.overrunReported_eq] using
        (h.reset.push halone).report
    · simpa [hfits, halone, h.pendingLength_eq, h.overrunReported_eq] using h.reset.report

/-- What is committed of a slot stands behind what waited before. -/
theorem advance_fillSlot (h : b.IsSound) (bytes : Bytes) (count : Nat) :
    ((b.fillSlot bytes).advance (AudioOp.slotChunk bytes count b.space).length).1 = .ok () ∧
      ((b.fillSlot bytes).advance (AudioOp.slotChunk bytes count b.space).length).2.pending =
        b.pending ++ AudioOp.slotChunk bytes count b.space := by
  have hslot : b.slot.length = b.space := by simp [slot, h.length_cells, space]
  have hfits : ¬ (b.fillSlot bytes).space < (AudioOp.slotChunk bytes count b.space).length :=
    Nat.not_lt_of_le (AudioOp.length_slotChunk_le bytes count b.space)
  have hfront : (b.cells.take b.cursor).length = b.cursor := by
    rw [List.length_take, h.length_cells, Nat.min_eq_left h.cursor_le]
  -- The chunk is the part of the bytes laid into the slot that its length reaches over.
  have hchunk : AudioOp.slotChunk bytes count b.space <+: bytes.take b.space :=
    List.take_prefix count _
  have hcells : (b.fillSlot bytes).cells.take
      (b.cursor + (AudioOp.slotChunk bytes count b.space).length) =
        b.cells.take b.cursor ++ AudioOp.slotChunk bytes count b.space := by
    conv_rhs => rw [List.prefix_iff_eq_take.mp hchunk]
    rw [fillSlot, overlay, hslot, List.append_assoc]
    nth_rewrite 1 [← hfront]
    rw [List.take_length_add_append, List.take_append_of_le_length hchunk.length_le]
  rw [advance, if_neg hfits]
  refine ⟨rfl, ?_⟩
  change ((b.fillSlot bytes).cells.take (b.cursor + _)).drop b.reserve = _
  rw [hcells, List.drop_append_of_le_length (by rw [hfront]; exact h.reserve_le), pending]

theorem advance_fillSlot_frame (b : AudioBuffer) (bytes : Bytes) (n : Nat) :
    ((b.fillSlot bytes).advance n).2.capacity = b.capacity ∧
      ((b.fillSlot bytes).advance n).2.reserve = b.reserve ∧
      ((b.fillSlot bytes).advance n).2.overrunReported = b.overrunReported := by
  rw [advance]
  split <;> exact ⟨rfl, rfl, rfl⟩

theorem Represents.slot (h : b.Represents q) (bytes : Bytes) (count : Nat) :
    (b.perform (.slot bytes count)).1 = (q.perform (.slot bytes count)).1 ∧
      (b.perform (.slot bytes count)).2.Represents (q.perform (.slot bytes count)).2 := by
  obtain ⟨hok, hpending⟩ := advance_fillSlot h.sound bytes count
  obtain ⟨hcapacity, hreserve, hreported⟩ := advance_fillSlot_frame b bytes
    (AudioOp.slotChunk bytes count b.space).length
  refine ⟨congrArg AudioAnswer.committed hok, ?_⟩
  constructor
  · exact (h.sound.fillSlot bytes).advance _
  · exact hcapacity.trans (h.capacity_eq.trans (by rw [← hreserve]; rfl))
  · rw [h.space_eq, h.pending_eq] at hpending
    simp only [AudioBuffer.perform, h.space_eq, hpending, ChunkQueue.perform, ChunkQueue.push,
      ChunkQueue.bytes, List.flatten_append, List.flatten_singleton]
  · exact hreported.trans h.overrunReported_eq

theorem Represents.take (h : b.Represents q) :
    (b.perform .take).1 = (q.perform .take).1 ∧
      (b.perform .take).2.Represents (q.perform .take).2 := by
  simp only [AudioBuffer.perform, ChunkQueue.perform, takePending]
  cases hp : b.hasPending with
  | true =>
    have hsome : q.bytes ≠ [] := h.pending_eq ▸ pending_ne_nil h.sound hp
    simpa [hsome, h.pending_eq] using h.reset
  | false =>
    have hnone : q.bytes = [] := h.pending_eq ▸ pending_eq_nil hp
    have hkept : b.pending = q.reset.bytes := by
      rw [h.pending_eq, hnone]
      rfl
    simpa [hnone] using Represents.mk h.sound h.capacity_eq hkept h.overrunReported_eq

/-- One operation is answered alike on both sides, and the buffer still holds the queue. -/
theorem Represents.perform (h : b.Represents q) (op : AudioOp) :
    (b.perform op).1 = (q.perform op).1 ∧ (b.perform op).2.Represents (q.perform op).2 := by
  cases op with
  | write chunk =>
    obtain ⟨houtcome, hafter⟩ := h.write chunk
    exact ⟨congrArg AudioAnswer.wrote houtcome, hafter⟩
  | slot bytes count => exact h.slot bytes count
  | take => exact h.take
  | reset => exact ⟨rfl, h.reset⟩
  | beginCycle => exact ⟨rfl, h.sound.beginCycle, h.capacity_eq, pending_reset b, rfl⟩

theorem Represents.run (h : b.Represents q) (ops : List AudioOp) :
    (AudioOp.run AudioBuffer.perform b ops).1 = (AudioOp.run ChunkQueue.perform q ops).1 ∧
      (AudioOp.run AudioBuffer.perform b ops).2.Represents
        (AudioOp.run ChunkQueue.perform q ops).2 := by
  induction ops generalizing b q with
  | nil => exact ⟨rfl, h⟩
  | cons op ops ih =>
    obtain ⟨hanswer, hafter⟩ := h.perform op
    obtain ⟨hanswers, hend⟩ := ih hafter
    exact ⟨congrArg₂ List.cons hanswer hanswers, hend⟩

theorem represents_of_create {capacity reserve : Nat} (h : create capacity reserve = .ok b) :
    b.Represents ({} : ChunkQueue (capacity - reserve)) := by
  have hsound := IsSound.of_create h
  have hpending := pending_of_create h
  simp only [create] at h
  split at h
  · cases h
  · cases h
    exact ⟨hsound, by simp only []; omega, hpending, rfl⟩

/-! ### Whole chunks -/

theorem Represents.stored_write (h : b.Represents q) (chunk : Bytes) :
    ∃ groups : List (List Bytes),
      q.chunks ++ b.stored (.write chunk) = groups.flatten ++ (q.write chunk).2.chunks := by
  rw [AudioBuffer.stored, (h.write chunk).1, ChunkQueue.write]
  by_cases hfits : chunk.length ≤ q.space
  · exact ⟨[], by simp [hfits, WriteOutcome.stored]⟩
  · by_cases halone : chunk.length ≤ q.reset.space
    · exact ⟨[q.chunks], by simp [hfits, halone, WriteOutcome.stored]⟩
    · have hrejected : 0 ≠ chunk.length := by omega
      exact ⟨[q.chunks], by simp [hfits, halone, hrejected, WriteOutcome.stored]⟩

/-- The chunks of the queue and those just stored are those that it gives up, with those it holds
then. A frame is all that is given up at once. -/
theorem Represents.groups_perform (h : b.Represents q) (op : AudioOp) :
    ∃ groups : List (List Bytes),
      q.chunks ++ b.stored op = groups.flatten ++ (q.perform op).2.chunks ∧
        (q.perform op).1.frame?.toList.Sublist (groups.map List.flatten) := by
  cases op with
  | write chunk =>
    obtain ⟨groups, heq⟩ := h.stored_write chunk
    exact ⟨groups, heq, List.nil_sublist _⟩
  | slot bytes count =>
    refine ⟨[], ?_, List.nil_sublist _⟩
    simp [AudioBuffer.stored, ChunkQueue.perform, h.space_eq]
  | take =>
    refine ⟨[q.chunks], by simp [AudioBuffer.stored, ChunkQueue.perform], ?_⟩
    simp only [ChunkQueue.perform, AudioAnswer.frame?]
    split
    · exact List.nil_sublist _
    · exact List.Sublist.refl _
  | reset =>
    exact ⟨[q.chunks], by simp [AudioBuffer.stored, ChunkQueue.perform],
      List.nil_sublist _⟩
  | beginCycle =>
    exact ⟨[q.chunks], by simp [AudioBuffer.stored, ChunkQueue.perform], List.nil_sublist _⟩

theorem Represents.groups_run (h : b.Represents q) (ops : List AudioOp) :
    ∃ groups : List (List Bytes),
      q.chunks ++ b.storedChunks ops =
          groups.flatten ++ (AudioOp.run ChunkQueue.perform q ops).2.chunks ∧
        ((AudioOp.run ChunkQueue.perform q ops).1.filterMap AudioAnswer.frame?).Sublist
          (groups.map List.flatten) := by
  induction ops generalizing b q with
  | nil => exact ⟨[], by simp [storedChunks, AudioOp.run], List.nil_sublist _⟩
  | cons op ops ih =>
    obtain ⟨given, hnow, hframe⟩ := h.groups_perform op
    obtain ⟨later, hrest, hframes⟩ := ih (h.perform op).2
    refine ⟨given ++ later, ?_, ?_⟩
    · rw [storedChunks, ← List.append_assoc, hnow, List.append_assoc, hrest, List.flatten_append,
        List.append_assoc]
      rfl
    · have hhead : (AudioOp.run ChunkQueue.perform q (op :: ops)).1.filterMap AudioAnswer.frame? =
          (q.perform op).1.frame?.toList ++
            (AudioOp.run ChunkQueue.perform (q.perform op).2 ops).1.filterMap AudioAnswer.frame? := by
        simp only [AudioOp.run, List.filterMap_cons]
        cases (q.perform op).1.frame? <;> rfl
      rw [hhead, List.map_append]
      exact hframe.append hframes

/-- A new buffer does what the empty queue with as much room does: all answers agree, what waits in
it is the chunks of the queue and its free space is that of the queue. Every frame taken is made of
whole chunks that were stored one right after the other, and frames share no chunk. -/
theorem refines_chunk_queue {capacity reserve : Nat} (h : reserve < capacity) :
    ∃ b, create capacity reserve = .ok b ∧ ∀ ops : List AudioOp,
      ∃ (answers : List AudioAnswer) (b' : AudioBuffer) (q : ChunkQueue (capacity - reserve)),
        AudioOp.run AudioBuffer.perform b ops = (answers, b') ∧
        AudioOp.run ChunkQueue.perform {} ops = (answers, q) ∧
        b'.pending = q.chunks.flatten ∧ b'.space = q.space ∧
        ∃ groups : List (List Bytes), b.storedChunks ops = groups.flatten ++ q.chunks ∧
          (answers.filterMap AudioAnswer.frame?).Sublist (groups.map List.flatten) := by
  have hcreate : ∃ b, create capacity reserve = .ok b := by
    simp [create, Nat.not_le_of_lt h]
  obtain ⟨b, hb⟩ := hcreate
  refine ⟨b, hb, fun ops => ?_⟩
  have hnew := represents_of_create hb
  obtain ⟨hanswers, hend⟩ := hnew.run ops
  obtain ⟨groups, hstored, hframes⟩ := hnew.groups_run ops
  refine ⟨(AudioOp.run ChunkQueue.perform {} ops).1, (AudioOp.run AudioBuffer.perform b ops).2,
    (AudioOp.run ChunkQueue.perform {} ops).2, Prod.ext hanswers rfl, rfl, hend.pending_eq,
    hend.space_eq, groups, by simpa using hstored, hframes⟩

/-- In six cells with one reserved, bytes of the first chunk and of a slot filled beyond what is
committed stay behind the cursor, and the last chunk overruns what waits. -/
theorem refines_chunk_queue_stale :
    ∃ (b' : AudioBuffer) (q : ChunkQueue 5) (groups : List (List Bytes)),
      b'.pending = q.chunks.flatten ∧
      [[1, 2, 3, 4, 5], [6, 7], [8], [10, 11, 12]] = groups.flatten ++ q.chunks ∧
      [[1, 2, 3, 4, 5], [10, 11, 12]].Sublist (groups.map List.flatten) := by
  obtain ⟨b, hb, hrefines⟩ := refines_chunk_queue (show 1 < 6 by decide)
  obtain ⟨answers, b', q, hrun, -, hpending, -, groups, hstored, hframes⟩ :=
    hrefines [.write [1, 2, 3, 4, 5], .take, .write [6, 7], .slot [8, 9] 1, .write [10, 11, 12],
      .take]
  cases hb
  have hanswers : answers = [.wrote (.written 5), .took (some [1, 2, 3, 4, 5]),
      .wrote (.written 2), .committed (.ok ()), .wrote (.overrun 3 3 true),
      .took (some [10, 11, 12])] := (congrArg Prod.fst hrun).symm
  subst hanswers
  exact ⟨b', q, groups, hpending, hstored, hframes⟩

end AudioBuffer

end VoiceBridge
