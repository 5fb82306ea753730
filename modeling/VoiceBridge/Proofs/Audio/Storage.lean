import Mathlib.Data.List.Basic
import VoiceBridge.Proofs.Audio.ChunkQueue

/-!
# The storage of the audio buffer

`ChunkQueue` looks at a buffer from outside and lets a producer commit no more of a slot than was copied
into it. Here the six operations stand apart, as the buffer offers them: slots are filled without being
committed, and bytes are committed that nobody filled or that the buffer has no room for.

No operation touches a cell in front of the reserve (`KeepsHeader`), and the cursor stays in its range,
for a count beyond the free space only puts it at the capacity. The notice of an overrun is a matter of
one flag, which the first overrun of a cycle sets and nothing but a new cycle clears.
-/

namespace VoiceBridge

/-- One operation of an audio buffer. -/
inductive BufferOp where
  | write (chunk : Bytes)
  /-- Copy bytes into the slot. -/
  | fill (bytes : Bytes)
  /-- Commit `count` bytes of the slot, whatever was copied there. -/
  | advance (count : Nat)
  | take
  | reset
  | beginCycle
  deriving Repr, DecidableEq

/-- What an overrun says about its notice. -/
def AudioAnswer.notice? : AudioAnswer → Option Bool
  | wrote (.overrun _ _ notify) => some notify
  | _ => none

namespace AudioBuffer

variable {b b' b'' : AudioBuffer}

/-- The answer to one operation, and the buffer after it. -/
def obey (b : AudioBuffer) : BufferOp → AudioAnswer × AudioBuffer
  | .write chunk => (.wrote (b.write chunk).1, (b.write chunk).2)
  | .fill bytes => (.done, b.fillSlot bytes)
  | .advance count => (.committed (b.advance count).1, (b.advance count).2)
  | .take => (.took b.takePending.1, b.takePending.2)
  | .reset => (.done, b.reset)
  | .beginCycle => (.done, b.beginCycle)

/-- The answers to operations one after the other, and the buffer after them. -/
def obeyAll (b : AudioBuffer) : List BufferOp → List AudioAnswer × AudioBuffer
  | [] => ([], b)
  | op :: ops => ((b.obey op).1 :: ((b.obey op).2.obeyAll ops).1, ((b.obey op).2.obeyAll ops).2)

theorem obeyAll_append (b : AudioBuffer) (ops ops' : List BufferOp) :
    b.obeyAll (ops ++ ops') =
      ((b.obeyAll ops).1 ++ ((b.obeyAll ops).2.obeyAll ops').1, ((b.obeyAll ops).2.obeyAll ops').2) := by
  induction ops generalizing b with
  | nil => rfl
  | cons op ops ih => simp only [List.cons_append, obeyAll, ih]

/-! ### The cursor -/

theorem IsSound.takePending (h : b.IsSound) : b.takePending.2.IsSound := by
  rw [AudioBuffer.takePending]
  cases b.hasPending with
  | true => exact h.reset
  | false => exact h

theorem IsSound.obey (h : b.IsSound) (op : BufferOp) : (b.obey op).2.IsSound := by
  cases op with
  | write chunk => exact h.write chunk
  | fill bytes => exact h.fillSlot bytes
  | advance count => exact h.advance count
  | take => exact h.takePending
  | reset => exact h.reset
  | beginCycle => exact h.beginCycle

theorem IsSound.obeyAll (h : b.IsSound) (ops : List BufferOp) : (b.obeyAll ops).2.IsSound := by
  induction ops generalizing b with
  | nil => exact h
  | cons op ops ih => exact ih (h.obey op)

theorem IsSound.space_add_pendingLength (h : b.IsSound) :
    b.space + b.pendingLength = b.capacity - b.reserve := by
  have hreserve := h.reserve_le
  have hcursor := h.cursor_le
  rw [space, pendingLength]
  omega

/-- Where more is committed than there is room for, the cursor moves to the capacity and no more. -/
theorem advance_of_space_lt {n : Nat} (h : b.space < n) :
    b.advance n = (.error (.overflow n b.space), { b with cursor := b.capacity }) := if_pos h

theorem advance_of_le_space {n : Nat} (h : n ≤ b.space) :
    b.advance n = (.ok (), { b with cursor := b.cursor + n }) := if_neg (Nat.not_lt.mpr h)

/-- What is taken is as long as the buffer said. -/
theorem length_of_takePending (h : b.IsSound) :
    (b.takePending.1.getD []).length = b.pendingLength := by
  rw [AudioBuffer.takePending]
  cases hp : b.hasPending with
  | true => exact length_pending h
  | false =>
    have hnone : b.pending = [] := pending_eq_nil hp
    rw [← length_pending h, hnone]
    rfl

theorem takePending_eq_none_iff : b.takePending.1 = none ↔ b.pendingLength = 0 := by
  rw [AudioBuffer.takePending, pendingLength, Nat.sub_eq_zero_iff_le]
  cases hp : b.hasPending with
  | true =>
    have hlt : b.reserve < b.cursor := of_decide_eq_true hp
    simpa using hlt
  | false =>
    have hle : ¬ b.reserve < b.cursor := of_decide_eq_false hp
    simpa using hle

/-! ### The cells in front of the reserve -/

/-- The second buffer is as large as the first, and the cells in front of the reserve are the same. -/
structure KeepsHeader (b b' : AudioBuffer) : Prop where
  capacity_eq : b'.capacity = b.capacity
  reserve_eq : b'.reserve = b.reserve
  header_eq : b'.cells.take b.reserve = b.cells.take b.reserve

namespace KeepsHeader

theorem of_cells (hcells : b'.cells = b.cells) (hcapacity : b'.capacity = b.capacity)
    (hreserve : b'.reserve = b.reserve) : b.KeepsHeader b' :=
  ⟨hcapacity, hreserve, by rw [hcells]⟩

theorem refl (b : AudioBuffer) : b.KeepsHeader b := of_cells rfl rfl rfl

theorem trans (h : b.KeepsHeader b') (h' : b'.KeepsHeader b'') : b.KeepsHeader b'' where
  capacity_eq := h'.capacity_eq.trans h.capacity_eq
  reserve_eq := h'.reserve_eq.trans h.reserve_eq
  header_eq := by
    have hheader := h'.header_eq
    rw [h.reserve_eq] at hheader
    exact hheader.trans h.header_eq

/-- Bytes are laid over the cells from the cursor on, so over none in front of the reserve. -/
theorem take_overlay (h : b.IsSound) (bytes : Bytes) :
    (b.overlay bytes).take b.reserve = b.cells.take b.reserve := by
  have hfront : (b.cells.take b.cursor).length = b.cursor := by
    rw [List.length_take, h.length_cells, Nat.min_eq_left h.cursor_le]
  have hreserve : b.reserve ≤ (b.cells.take b.cursor).length := hfront.symm ▸ h.reserve_le
  rw [overlay, List.append_assoc, List.take_append_of_le_length hreserve, List.take_take,
    Nat.min_eq_left h.reserve_le]

theorem append (h : b.IsSound) (bytes : Bytes) : b.KeepsHeader (b.append bytes) :=
  ⟨rfl, rfl, take_overlay h bytes⟩

theorem write (h : b.IsSound) (chunk : Bytes) : b.KeepsHeader (b.write chunk).2 := by
  rw [AudioBuffer.write]
  by_cases hfits : chunk.length ≤ b.space
  · rw [if_pos hfits]
    exact append h chunk
  · rw [if_neg hfits]
    dsimp only
    split
    · have hstored := append h.reset chunk
      exact ⟨hstored.capacity_eq, hstored.reserve_eq, hstored.header_eq⟩
    · exact of_cells rfl rfl rfl

theorem advance (b : AudioBuffer) (n : Nat) : b.KeepsHeader (b.advance n).2 := by
  rw [AudioBuffer.advance]
  split
  · exact of_cells rfl rfl rfl
  · exact of_cells rfl rfl rfl

theorem takePending (b : AudioBuffer) : b.KeepsHeader b.takePending.2 := by
  rw [AudioBuffer.takePending]
  cases b.hasPending with
  | true => exact of_cells rfl rfl rfl
  | false => exact refl b

theorem obey (h : b.IsSound) (op : BufferOp) : b.KeepsHeader (b.obey op).2 := by
  cases op with
  | write chunk => exact write h chunk
  | fill bytes => exact ⟨rfl, rfl, take_overlay h _⟩
  | advance count => exact advance b count
  | take => exact takePending b
  | reset => exact of_cells rfl rfl rfl
  | beginCycle => exact of_cells rfl rfl rfl

theorem obeyAll (h : b.IsSound) (ops : List BufferOp) : b.KeepsHeader (b.obeyAll ops).2 := by
  induction ops generalizing b with
  | nil => exact refl b
  | cons op ops ih => exact (obey h op).trans (ih (h.obey op))

end KeepsHeader

/-! ### The notice -/

/-- A write that overruns says whether it is the first to do so, and is then on record. -/
theorem notice_write (b : AudioBuffer) (chunk : Bytes) :
    ((b.obey (.write chunk)).1.notice? = none ∧
        (b.obey (.write chunk)).2.overrunReported = b.overrunReported) ∨
      ((b.obey (.write chunk)).1.notice? = some (!b.overrunReported) ∧
        (b.obey (.write chunk)).2.overrunReported = true) := by
  simp only [obey, AudioBuffer.write]
  by_cases hfits : chunk.length ≤ b.space
  · left
    rw [if_pos hfits]
    exact ⟨rfl, rfl⟩
  · right
    rw [if_neg hfits]
    split
    · exact ⟨rfl, rfl⟩
    · exact ⟨rfl, rfl⟩

theorem overrunReported_advance (b : AudioBuffer) (n : Nat) :
    (b.advance n).2.overrunReported = b.overrunReported := by
  rw [advance]
  split
  · rfl
  · rfl

theorem overrunReported_takePending (b : AudioBuffer) :
    b.takePending.2.overrunReported = b.overrunReported := by
  rw [takePending]
  split
  · rfl
  · rfl

/-- Apart from a new cycle, an operation leaves the flag alone unless it overruns. -/
theorem notice_obey {op : BufferOp} (hop : op ≠ .beginCycle) (b : AudioBuffer) :
    ((b.obey op).1.notice? = none ∧ (b.obey op).2.overrunReported = b.overrunReported) ∨
      ((b.obey op).1.notice? = some (!b.overrunReported) ∧ (b.obey op).2.overrunReported = true) := by
  cases op with
  | write chunk => exact notice_write b chunk
  | fill bytes => exact .inl ⟨rfl, rfl⟩
  | advance count => exact .inl ⟨rfl, overrunReported_advance b count⟩
  | take => exact .inl ⟨rfl, overrunReported_takePending b⟩
  | reset => exact .inl ⟨rfl, rfl⟩
  | beginCycle => exact absurd rfl hop

/-- The notices asked for in the course of operations. -/
def notices (b : AudioBuffer) (ops : List BufferOp) : List Bool :=
  (b.obeyAll ops).1.filterMap AudioAnswer.notice?

theorem notices_cons (b : AudioBuffer) (op : BufferOp) (ops : List BufferOp) :
    b.notices (op :: ops) = (b.obey op).1.notice?.toList ++ (b.obey op).2.notices ops := by
  rw [notices, obeyAll, List.filterMap_cons]
  cases (b.obey op).1.notice? with
  | none => rfl
  | some notify => rfl

/-- Once an overrun is on record, no other asks for a notice in that cycle. -/
theorem notices_of_reported {ops : List BufferOp} (hops : .beginCycle ∉ ops)
    (h : b.overrunReported = true) : ∃ n, b.notices ops = List.replicate n false := by
  induction ops generalizing b with
  | nil => exact ⟨0, rfl⟩
  | cons op ops ih =>
    obtain ⟨hop, hrest⟩ := List.ne_and_not_mem_of_not_mem_cons hops
    rw [notices_cons]
    obtain ⟨hnone, hsame⟩ | ⟨hsome, hset⟩ := notice_obey hop.symm b
    · obtain ⟨n, hn⟩ := ih hrest (hsame.trans h)
      exact ⟨n, by rw [hnone, hn]; rfl⟩
    · obtain ⟨n, hn⟩ := ih hrest hset
      exact ⟨n + 1, by rw [hsome, hn, h]; rfl⟩

/-- In a cycle without an overrun on record, the first one asks for its notice and no later one does. -/
theorem notices_of_unreported {ops : List BufferOp} (hops : .beginCycle ∉ ops)
    (h : b.overrunReported = false) :
    b.notices ops = [] ∨ ∃ n, b.notices ops = true :: List.replicate n false := by
  induction ops generalizing b with
  | nil => exact .inl rfl
  | cons op ops ih =>
    obtain ⟨hop, hrest⟩ := List.ne_and_not_mem_of_not_mem_cons hops
    rw [notices_cons]
    obtain ⟨hnone, hsame⟩ | ⟨hsome, hset⟩ := notice_obey hop.symm b
    · rw [hnone]
      exact ih hrest (hsame.trans h)
    · obtain ⟨n, hn⟩ := notices_of_reported hrest hset
      exact .inr ⟨n, by rw [hsome, hn, h]; rfl⟩

/-- A cycle begins with no overrun on record. -/
theorem overrunReported_of_beginCycle {ops : List BufferOp}
    (h : ops.getLast? = some .beginCycle) : (b.obeyAll ops).2.overrunReported = false := by
  obtain ⟨front, rfl⟩ := List.getLast?_eq_some_iff.mp h
  rw [obeyAll_append]
  rfl

/-! ### A buffer in use -/

/-- Whatever is done with a new buffer: its cursor stays between the reserve and the capacity, free
space and pending audio make up the rest, and the cells in front of the reserve are as they were. A count
beyond the free space is reported with it and costs no cell, and what is taken is as long as announced.
In each cycle the first overrun, and no other, asks for a notice. -/
theorem storage_in_use {capacity reserve : Nat} (h : reserve < capacity) :
    ∃ b, create capacity reserve = .ok b ∧ ∀ ops : List BufferOp,
      ∃ answers b', b.obeyAll ops = (answers, b') ∧
        (b'.capacity = capacity ∧ b'.reserve = reserve ∧ b'.cells.length = capacity) ∧
        (reserve ≤ b'.cursor ∧ b'.cursor ≤ capacity ∧
          b'.space + b'.pendingLength = capacity - reserve) ∧
        b'.cells.take reserve = b.cells.take reserve ∧
        (∀ n, b'.space < n →
          b'.advance n = (.error (.overflow n b'.space), { b' with cursor := capacity })) ∧
        (∀ n ≤ b'.space, b'.advance n = (.ok (), { b' with cursor := b'.cursor + n })) ∧
        (∀ frame, b'.takePending.1 = some frame → frame.length = b'.pendingLength) ∧
        (b'.takePending.1 = none ↔ b'.pendingLength = 0) ∧
        ((ops = [] ∨ ops.getLast? = some .beginCycle) → ∀ cycle, .beginCycle ∉ cycle →
          b'.notices cycle = [] ∨ ∃ n, b'.notices cycle = true :: List.replicate n false) := by
  obtain ⟨b, hb⟩ : ∃ b, create capacity reserve = .ok b := by simp [create, Nat.not_le_of_lt h]
  refine ⟨b, hb, fun ops => ⟨_, _, rfl, ?_⟩⟩
  have hnew : b.capacity = capacity ∧ b.reserve = reserve ∧ b.overrunReported = false := by
    simp only [create, if_neg (Nat.not_le_of_lt h), Except.ok.injEq] at hb
    subst hb
    exact ⟨rfl, rfl, rfl⟩
  obtain ⟨hcapacity, hreserve, hreported⟩ := hnew
  have hstart : b.IsSound := IsSound.of_create hb
  have hsound := hstart.obeyAll ops
  have hkept := KeepsHeader.obeyAll hstart ops
  have hcapacity' := hkept.capacity_eq.trans hcapacity
  have hreserve' := hkept.reserve_eq.trans hreserve
  refine ⟨⟨hcapacity', hreserve', ?_⟩, ⟨?_, ?_, ?_⟩, ?_, ?_, ?_, ?_, takePending_eq_none_iff, ?_⟩
  · exact hsound.length_cells.trans hcapacity'
  · exact hreserve' ▸ hsound.reserve_le
  · exact hcapacity' ▸ hsound.cursor_le
  · rw [hsound.space_add_pendingLength, hcapacity', hreserve']
  · exact hreserve ▸ hkept.header_eq
  · intro n hn
    rw [advance_of_space_lt hn, hcapacity']
  · intro n hn
    exact advance_of_le_space hn
  · intro frame hframe
    have hlength := length_of_takePending hsound
    rwa [hframe] at hlength
  · intro hops cycle hcycle
    apply notices_of_unreported hcycle
    obtain rfl | hlast := hops
    · exact hreported
    · exact overrunReported_of_beginCycle hlast

/-- In six cells with one reserved, more is committed than there is room for before a cycle begins in
which two chunks in turn are too long. -/
theorem storage_in_use_clamped :
    ∃ b answers b', create 6 1 = .ok b ∧
      b.obeyAll [.write [1, 2, 3], .fill [8, 9, 10], .advance 7, .beginCycle] = (answers, b') ∧
      answers = [.wrote (.written 3), .done, .committed (.error (.overflow 7 2)), .done] ∧
      b'.cells = [0, 1, 2, 3, 8, 9] ∧ b'.space + b'.pendingLength = 5 ∧
      ∃ n, b'.notices [.write [1, 1, 1, 1, 1, 1], .reset, .take, .write [2, 2, 2, 2, 2, 2]] =
        true :: List.replicate n false := by
  obtain ⟨b, hb, huse⟩ := storage_in_use (show 1 < 6 by decide)
  obtain ⟨answers, b', hrun, -, ⟨-, -, hroom⟩, -, -, -, -, -, hcycle⟩ :=
    huse [.write [1, 2, 3], .fill [8, 9, 10], .advance 7, .beginCycle]
  refine ⟨b, answers, b', hb, hrun, ?_⟩
  obtain hnone | hfirst := hcycle (.inr rfl)
    [.write [1, 1, 1, 1, 1, 1], .reset, .take, .write [2, 2, 2, 2, 2, 2]] (by decide)
  · cases hb
    cases hrun
    cases hnone
  · cases hb
    cases hrun
    exact ⟨rfl, rfl, hroom, hfirst⟩

end AudioBuffer

end VoiceBridge
