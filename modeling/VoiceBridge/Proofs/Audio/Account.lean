import Mathlib.Algebra.GroupWithZero.Nat
import VoiceBridge.Proofs.Audio.Buffer

/-!
# Accounting for audio

The account of a connection's audio is the list of what can be seen of it from outside: the chunks that
producers write, each with the outcome they are told, and what the driver sends or fails to send.
`Account waiting entries received left` ties such a list to the bytes: it begins with `waiting` in the
buffer, the far end receives `received`, and `left` remains in the buffer.

What becomes of a chunk that was stored is decided by the first entry behind it that empties the buffer.
It is kept if that is a frame that was sent, or if there is none. The bytes received and left are those of
the chunks kept (`Account.kept_eq`), and the counts of dropped bytes that producers are told add up to the
bytes of the chunks that were refused or lost in an overrun (`Account.reported_eq`).
-/

namespace VoiceBridge

/-- What is seen of the audio of a connection. -/
inductive AudioEntry where
  /-- A chunk was written and its producer told the outcome. -/
  | wrote (chunk : Bytes) (outcome : WriteOutcome)
  /-- A frame of audio was sent. -/
  | sent
  /-- A frame of audio could not be sent. -/
  | failed
  /-- The close frame was sent. -/
  | closed
  /-- The close frame could not be sent. -/
  | closeFailed
  deriving Repr, DecidableEq

namespace AudioEntry

/-- A write that reports an overrun. -/
def isOverrun : AudioEntry → Bool
  | wrote _ (.overrun ..) => true
  | _ => false

/-- The entry decides what becomes of the chunks that wait: the buffer is empty behind it, but for the
chunk of the entry itself. -/
def decides : AudioEntry → Bool
  | wrote _ (.written _) => false
  | wrote _ (.overrun ..) | sent | failed | closed | closeFailed => true

/-- The entry that decides what becomes of the chunks that wait when `rest` begins. -/
def fate? (rest : List AudioEntry) : Option AudioEntry := rest.find? decides

theorem fate?_of_decides {e : AudioEntry} (h : e.decides = true) (rest : List AudioEntry) :
    fate? (e :: rest) = some e := List.find?_cons_of_pos h

theorem fate?_written (chunk : Bytes) (n : Nat) (rest : List AudioEntry) :
    fate? (wrote chunk (.written n) :: rest) = fate? rest := rfl

/-- Chunks with this fate are lost. -/
def loses : Option AudioEntry → Bool
  | none | some sent => false
  | some (wrote ..) | some failed | some closed | some closeFailed => true

/-- The chunks written, as far as their outcome and their fate are of some kind. -/
def chunksWhere (p : WriteOutcome → Option AudioEntry → Bool) : List AudioEntry → List Bytes
  | [] => []
  | wrote chunk outcome :: rest =>
    if p outcome (fate? rest) then chunk :: chunksWhere p rest else chunksWhere p rest
  | sent :: rest | failed :: rest | closed :: rest | closeFailed :: rest => chunksWhere p rest

theorem flatten_chunksWhere_wrote (p : WriteOutcome → Option AudioEntry → Bool) (chunk : Bytes)
    (outcome : WriteOutcome) (rest : List AudioEntry) :
    (chunksWhere p (wrote chunk outcome :: rest)).flatten =
      (if p outcome (fate? rest) then chunk else []) ++ (chunksWhere p rest).flatten := by
  rw [chunksWhere]
  split <;> rfl

/-- A chunk of no bytes makes no difference. -/
theorem ite_stored (chunk : Bytes) (b : Bool) :
    (if chunk.length != 0 && b then chunk else []) = if b then chunk else [] := by
  cases chunk <;> cases b <;> rfl

/-- All chunks written. -/
def chunksWritten : List AudioEntry → List Bytes := chunksWhere fun _ _ => true

/-- The chunks of which nothing was stored. -/
def chunksRefused : List AudioEntry → List Bytes := chunksWhere fun outcome _ => outcome.stored == 0

/-- The chunks that were stored and still waited at an overrun. -/
def chunksOverrun : List AudioEntry → List Bytes :=
  chunksWhere fun outcome fate => outcome.stored != 0 && fate.any isOverrun

/-- The chunks that are left when those are deleted that were refused, or were waiting at an overrun, at a
close frame, sent or not, or for a frame of audio that could not be sent. -/
def chunksKept : List AudioEntry → List Bytes :=
  chunksWhere fun outcome fate => outcome.stored != 0 && !loses fate

/-- The bytes dropped, as the entry reports. -/
def dropped : AudioEntry → Nat
  | wrote _ (.overrun dropped _ _) => dropped
  | wrote _ (.written _) | sent | failed | closed | closeFailed => 0

/-- The bytes dropped, as reported by all entries. -/
def reported (entries : List AudioEntry) : Nat := (entries.map dropped).sum

theorem reported_cons (e : AudioEntry) (rest : List AudioEntry) :
    reported (e :: rest) = e.dropped + reported rest := by
  rw [reported, List.map_cons, List.sum_cons, reported]

/-- Nothing is lost: every entry that empties the buffer is a frame sent. -/
def Lossless (entries : List AudioEntry) : Prop := ∀ e ∈ entries, e.decides = true → e = .sent

instance (entries : List AudioEntry) : Decidable (Lossless entries) :=
  inferInstanceAs (Decidable (∀ e ∈ entries, _))

end AudioEntry

open AudioEntry in
/-- From `waiting` in the buffer, the entries lead to what the far end receives and to what is left. -/
inductive Account : Bytes → List AudioEntry → Bytes → Bytes → Prop
  | nil (waiting : Bytes) : Account waiting [] [] waiting
  | stored {waiting chunk received left : Bytes} {rest : List AudioEntry}
      (account : Account (waiting ++ chunk) rest received left) :
      Account waiting (wrote chunk (.written chunk.length) :: rest) received left
  | overrun {waiting chunk received left : Bytes} {rest : List AudioEntry} (notify : Bool)
      (account : Account chunk rest received left) :
      Account waiting (wrote chunk (.overrun waiting.length chunk.length notify) :: rest) received left
  | refused {waiting chunk received left : Bytes} {rest : List AudioEntry} (notify : Bool)
      (account : Account [] rest received left) :
      Account waiting (wrote chunk (.overrun (waiting.length + chunk.length) 0 notify) :: rest)
        received left
  | sent {waiting received left : Bytes} {rest : List AudioEntry}
      (account : Account [] rest received left) :
      Account waiting (sent :: rest) (waiting ++ received) left
  | lost {waiting received left : Bytes} {rest : List AudioEntry} {e : AudioEntry}
      (cause : e = failed ∨ e = closed ∨ e = closeFailed) (account : Account [] rest received left) :
      Account waiting (e :: rest) received left

namespace Account

open AudioEntry

variable {waiting received left : Bytes} {entries : List AudioEntry}

/-- One account goes on where another one ends. -/
theorem append {received' left' : Bytes} {later : List AudioEntry}
    (h : Account waiting entries received left) (h' : Account left later received' left') :
    Account waiting (entries ++ later) (received ++ received') left' := by
  induction h with
  | nil => exact h'
  | stored _ ih => exact .stored (ih h')
  | overrun notify _ ih => exact .overrun notify (ih h')
  | refused notify _ ih => exact .refused notify (ih h')
  | sent _ ih =>
    rw [List.append_assoc]
    exact .sent (ih h')
  | lost cause _ ih => exact .lost cause (ih h')

/-- What was received and what is left are the chunks kept, behind what waited unless that is lost. -/
theorem kept_eq (h : Account waiting entries received left) :
    received ++ left = (if loses (fate? entries) then [] else waiting) ++ (chunksKept entries).flatten := by
  induction h with
  | nil => exact (List.append_nil _).symm
  | @stored waiting chunk _ _ rest _ ih =>
    rw [ih, fate?_written, chunksKept, flatten_chunksWhere_wrote, WriteOutcome.stored, ite_stored]
    cases loses (fate? rest) <;> simp
  | @overrun waiting chunk _ _ rest notify _ ih =>
    rw [ih, fate?_of_decides rfl, chunksKept, flatten_chunksWhere_wrote, WriteOutcome.stored, ite_stored]
    cases loses (fate? rest) <;> rfl
  | refused notify _ ih =>
    rw [ih, ite_self, fate?_of_decides rfl, chunksKept, flatten_chunksWhere_wrote]
    rfl
  | sent _ ih =>
    rw [List.append_assoc, ih, ite_self, fate?_of_decides rfl]
    rfl
  | lost cause _ ih =>
    rw [ih, ite_self]
    rcases cause with rfl | rfl | rfl <;> rw [fate?_of_decides rfl] <;> rfl

/-- The counts reported are the bytes of the chunks refused and of those lost in an overrun, what waited
at first among them. -/
theorem reported_eq (h : Account waiting entries received left) :
    reported entries = (if (fate? entries).any isOverrun then waiting.length else 0) +
      (chunksRefused entries).flatten.length + (chunksOverrun entries).flatten.length := by
  induction h with
  | nil => rfl
  | @stored waiting chunk _ _ rest _ ih =>
    rw [reported_cons, ih, fate?_written, chunksRefused, chunksOverrun, flatten_chunksWhere_wrote,
      flatten_chunksWhere_wrote, WriteOutcome.stored, ite_stored]
    cases (fate? rest).any isOverrun <;> cases chunk <;> simp [dropped]
    omega
  | @overrun waiting chunk _ _ rest notify _ ih =>
    rw [reported_cons, ih, fate?_of_decides rfl, chunksRefused, chunksOverrun,
      flatten_chunksWhere_wrote, flatten_chunksWhere_wrote, WriteOutcome.stored, ite_stored]
    cases (fate? rest).any isOverrun <;> cases chunk <;> simp [dropped, isOverrun] <;> omega
  | @refused waiting chunk _ _ rest notify _ ih =>
    rw [reported_cons, ih, fate?_of_decides rfl, chunksRefused, chunksOverrun,
      flatten_chunksWhere_wrote, flatten_chunksWhere_wrote]
    simp [dropped, WriteOutcome.stored, isOverrun]
    omega
  | sent _ ih =>
    rw [reported_cons, ih, List.length_nil, ite_self, fate?_of_decides rfl]
    exact Nat.zero_add _
  | lost cause _ ih =>
    rw [reported_cons, ih, List.length_nil, ite_self]
    rcases cause with rfl | rfl | rfl <;> rw [fate?_of_decides rfl] <;> exact Nat.zero_add _

/-- Where nothing is lost, all chunks written are received or left, behind what waited. -/
theorem lossless_eq (h : Account waiting entries received left) (hl : Lossless entries) :
    received ++ left = waiting ++ (chunksWritten entries).flatten := by
  induction h with
  | nil => exact (List.append_nil _).symm
  | stored _ ih =>
    rw [ih fun e he => hl e (List.mem_cons_of_mem _ he), List.append_assoc]
    rfl
  | overrun | refused => cases hl _ List.mem_cons_self rfl
  | sent _ ih =>
    rw [List.append_assoc, ih fun e he => hl e (List.mem_cons_of_mem _ he)]
    rfl
  | lost cause => rcases cause with rfl | rfl | rfl <;> cases hl _ List.mem_cons_self rfl

end Account

/-- What a write does to the buffer is what its outcome says. -/
theorem AudioBuffer.account_write {b : AudioBuffer} (h : b.IsSound) (chunk : Bytes) :
    Account b.pending [.wrote chunk (b.write chunk).1] [] (b.write chunk).2.pending := by
  unfold AudioBuffer.write
  rw [← length_pending h]
  split
  · rw [pending_append h]
    exact .stored (.nil _)
  · dsimp only
    split
    · have happend : (b.reset.append chunk).pending = chunk := by
        rw [pending_append h.reset, pending_reset, List.nil_append]
      change Account b.pending _ [] (b.reset.append chunk).pending
      rw [happend]
      exact .overrun _ (.nil chunk)
    · change Account b.pending _ [] b.reset.pending
      rw [pending_reset]
      exact .refused _ (.nil [])

end VoiceBridge
