import Mathlib.Data.List.Infix
import VoiceBridge.Proofs.Audio.Buffer

/-!
# The history of a buffer

A history is the list of what happens to the audio of a connection: bytes are stored, what waits is
sent as one frame, or it is lost. `replay` works out the frames sent and what is left waiting. It does
not look at the bytes, so they can carry a tag that says where they come from (`replay_map`).

Cut a history at some point. What waits there is carried on if the first thing that becomes of it is
to be sent; then it stands at the head of the first frame sent afterwards, and otherwise no frame
afterwards has any of it.
-/

namespace VoiceBridge

/-- What happens to the audio of a connection. -/
inductive AudioMark (α : Type) where
  /-- Bytes are stored behind those that wait. -/
  | stored (bytes : List α)
  /-- What waits is sent as one frame. -/
  | sent
  /-- What waits is dropped. -/
  | lost
  /-- The connection is open from now on. -/
  | opened
  deriving Repr, DecidableEq

namespace AudioMark

variable {α β : Type}

def map (f : α → β) : AudioMark α → AudioMark β
  | stored bytes => stored (bytes.map f)
  | sent => sent
  | lost => lost
  | opened => opened

/-- The frames sent in a history that begins with `waiting`, and what waits at its end. -/
def replay (waiting : List α) : List (AudioMark α) → List (List α) × List α
  | [] => ([], waiting)
  | stored bytes :: rest => replay (waiting ++ bytes) rest
  | sent :: rest => (waiting :: (replay [] rest).1, (replay [] rest).2)
  | lost :: rest => replay [] rest
  | opened :: rest => replay waiting rest

/-- What waits at the beginning of a history is sent in it. -/
def carried : List (AudioMark α) → Bool
  | [] => false
  | stored _ :: rest | opened :: rest => carried rest
  | sent :: _ => true
  | lost :: _ => false

theorem replay_append (waiting : List α) (front rest : List (AudioMark α)) :
    replay waiting (front ++ rest) =
      ((replay waiting front).1 ++ (replay (replay waiting front).2 rest).1,
        (replay (replay waiting front).2 rest).2) := by
  induction front generalizing waiting with
  | nil => rfl
  | cons m front ih =>
    cases m with
    | stored bytes => exact ih _
    | sent => simp [replay, ih]
    | lost => exact ih _
    | opened => exact ih _

theorem replay_map (f : α → β) (waiting : List α) (marks : List (AudioMark α)) :
    replay (waiting.map f) (marks.map (map f)) =
      ((replay waiting marks).1.map (List.map f), (replay waiting marks).2.map f) := by
  induction marks generalizing waiting with
  | nil => rfl
  | cons m marks ih =>
    have hnil := ih []
    rw [List.map_nil] at hnil
    cases m with
    | stored bytes =>
      have hstored := ih (waiting ++ bytes)
      rw [List.map_append] at hstored
      exact hstored
    | sent => simp [replay, map, hnil]
    | lost => exact hnil
    | opened => exact ih waiting

theorem carried_map (f : α → β) (marks : List (AudioMark α)) :
    carried (marks.map (map f)) = carried marks := by
  induction marks with
  | nil => rfl
  | cons m marks ih =>
    cases m with
    | stored bytes => exact ih
    | sent => rfl
    | lost => rfl
    | opened => exact ih

/-- What is carried on stands at the head of the first frame. -/
theorem replay_of_carried {marks : List (AudioMark α)} (h : carried marks = true)
    (early waiting : List α) :
    ∃ first rest, (replay waiting marks).1 = first :: rest ∧
      (replay (early ++ waiting) marks).1 = (early ++ first) :: rest := by
  induction marks generalizing waiting with
  | nil => cases h
  | cons m marks ih =>
    cases m with
    | stored bytes =>
      obtain ⟨first, rest, hlate, hboth⟩ := ih h (waiting ++ bytes)
      rw [← List.append_assoc] at hboth
      exact ⟨first, rest, hlate, hboth⟩
    | sent => exact ⟨waiting, _, rfl, rfl⟩
    | lost => cases h
    | opened => exact ih h waiting

/-- What is not carried on is in no frame. -/
theorem replay_of_not_carried {marks : List (AudioMark α)} (h : carried marks = false)
    (early waiting : List α) :
    (replay (early ++ waiting) marks).1 = (replay waiting marks).1 := by
  induction marks generalizing waiting with
  | nil => rfl
  | cons m marks ih =>
    cases m with
    | stored bytes =>
      have hstored := ih h (waiting ++ bytes)
      rw [← List.append_assoc] at hstored
      exact hstored
    | sent => cases h
    | lost => rfl
    | opened => exact ih h waiting

/-- Without a loss, what does not wait any more has been sent. -/
theorem carried_of_replay_eq_nil {marks : List (AudioMark α)} (hlost : .lost ∉ marks)
    {waiting : List α} (hw : waiting ≠ []) (h : (replay waiting marks).2 = []) :
    carried marks = true := by
  induction marks generalizing waiting with
  | nil => exact absurd h hw
  | cons m marks ih =>
    have hrest : .lost ∉ marks := fun hmem => hlost (List.mem_cons_of_mem m hmem)
    cases m with
    | stored bytes => exact ih hrest (by simp [hw]) h
    | sent => rfl
    | lost => exact absurd List.mem_cons_self hlost
    | opened => exact ih hrest hw h

/-! ### Where bytes come from -/

/-- When a byte was written, seen from a point in a history. -/
inductive Written where
  /-- Before the connection was open. -/
  | unopened
  /-- On the open connection, before the point. -/
  | inTime
  /-- After the point. -/
  | late
  deriving Repr, DecidableEq

/-- Tag every byte with when it was written, up to a point. -/
def tagged : Written → List (AudioMark α) → List (AudioMark (α × Written))
  | _, [] => []
  | w, stored bytes :: rest => stored (bytes.map (·, w)) :: tagged w rest
  | w, sent :: rest => sent :: tagged w rest
  | w, lost :: rest => lost :: tagged w rest
  | _, opened :: rest => opened :: tagged .inTime rest

theorem map_fst_map {β : Type} (w : β) (bytes : List α) :
    (bytes.map fun a => (a, w)).map Prod.fst = bytes := by
  rw [List.map_map]
  exact List.map_id bytes

theorem map_fst_tagged (w : Written) (marks : List (AudioMark α)) :
    (tagged w marks).map (map Prod.fst) = marks := by
  induction marks generalizing w with
  | nil => rfl
  | cons m marks ih =>
    cases m with
    | stored bytes =>
      rw [tagged, List.map_cons, map, map_fst_map, ih]
    | sent => simp [tagged, map, ih]
    | lost => simp [tagged, map, ih]
    | opened => simp [tagged, map, ih]

theorem ne_late_of_mem_tagged {w : Written} (hw : w ≠ .late) {waiting : List (α × Written)}
    (hwaiting : ∀ p ∈ waiting, p.2 ≠ .late) (marks : List (AudioMark α)) :
    ∀ p ∈ (replay waiting (tagged w marks)).2, p.2 ≠ .late := by
  induction marks generalizing w waiting with
  | nil => exact hwaiting
  | cons m marks ih =>
    cases m with
    | stored bytes =>
      refine ih hw fun p hp => ?_
      rcases List.mem_append.mp hp with hp | hp
      · exact hwaiting p hp
      · obtain ⟨a, _, rfl⟩ := List.mem_map.mp hp
        exact hw
    | sent => exact ih hw (by simp)
    | lost => exact ih hw (by simp)
    | opened => exact ih (by simp) hwaiting

/-- What waits at the end of a history, each byte with when it was written. -/
def waitingOf (marks : List (AudioMark α)) : List (α × Written) :=
  (replay [] (tagged .unopened marks)).2

theorem map_fst_waitingOf (marks : List (AudioMark α)) :
    (waitingOf marks).map Prod.fst = (replay [] marks).2 := by
  have h := replay_map Prod.fst [] (tagged .unopened marks)
  rw [map_fst_tagged] at h
  exact (congrArg Prod.snd h).symm

theorem ne_late_of_mem_waitingOf {marks : List (AudioMark α)} {p : α × Written}
    (h : p ∈ waitingOf marks) : p.2 ≠ .late :=
  ne_late_of_mem_tagged (by simp) (by simp) marks p h

/-- The frames sent after a point, each byte with when it was written. -/
def framesAfter (earlier later : List (AudioMark α)) : List (List (α × Written)) :=
  (replay (waitingOf earlier) (later.map (map (·, .late)))).1

theorem map_fst_framesAfter (earlier later : List (AudioMark α)) :
    (framesAfter earlier later).map (List.map Prod.fst) =
      (replay (replay [] earlier).2 later).1 := by
  have h := replay_map Prod.fst (waitingOf earlier) (later.map (map (·, Written.late)))
  have hlater : (later.map (map fun a => (a, Written.late))).map (map Prod.fst) = later := by
    rw [List.map_map]
    refine (List.map_congr_left fun m _ => ?_).trans (List.map_id later)
    cases m with
    | stored bytes => exact congrArg stored (map_fst_map Written.late bytes)
    | sent => rfl
    | lost => rfl
    | opened => rfl
  rw [hlater, map_fst_waitingOf] at h
  exact (congrArg Prod.fst h).symm

variable {P : Written → Prop}

/-- Bytes written after a point are late. -/
theorem snd_of_mem_late (hlate : P .late) {later : List (AudioMark α)} {waiting : List (α × Written)}
    (hw : ∀ p ∈ waiting, P p.2) :
    ∀ frame ∈ (replay waiting (later.map (map (·, .late)))).1, ∀ p ∈ frame, P p.2 := by
  induction later generalizing waiting with
  | nil => simp [replay]
  | cons m later ih =>
    cases m with
    | stored bytes =>
      refine ih fun p hp => ?_
      rcases List.mem_append.mp hp with hp | hp
      · exact hw p hp
      · obtain ⟨a, _, rfl⟩ := List.mem_map.mp hp
        exact hlate
    | sent =>
      intro frame hframe
      rcases List.mem_cons.mp hframe with rfl | hframe
      · exact hw
      · exact ih (by simp) frame hframe
    | lost => exact ih (by simp)
    | opened => exact ih hw

/-- The frames after a point hold nothing but bytes of some kinds, late ones among them, exactly if
nothing else waits at the point or what waits there is dropped before it is sent. -/
theorem framesAfter_iff (hlate : P .late) (earlier later : List (AudioMark α)) :
    (∀ frame ∈ framesAfter earlier later, ∀ p ∈ frame, P p.2) ↔
      (∀ p ∈ waitingOf earlier, P p.2) ∨ carried later = false := by
  constructor
  · intro h
    cases hc : carried later with
    | false => exact .inr rfl
    | true =>
      have hcarried : carried (later.map (map (·, Written.late))) = true := by rw [carried_map, hc]
      obtain ⟨first, rest, _, hframes⟩ := replay_of_carried hcarried (waitingOf earlier) []
      rw [List.append_nil] at hframes
      refine .inl fun p hp => ?_
      refine h (waitingOf earlier ++ first) ?_ p (List.mem_append_left _ hp)
      rw [framesAfter, hframes]
      exact List.mem_cons_self
  · rintro (hw | hc)
    · exact snd_of_mem_late hlate hw
    · have hcarried : carried (later.map (map (·, Written.late))) = false := by rw [carried_map, hc]
      have hframes := replay_of_not_carried hcarried (waitingOf earlier) []
      rw [List.append_nil] at hframes
      rw [framesAfter, hframes]
      exact snd_of_mem_late hlate (by simp)

/-- All bytes sent after a point are late exactly if nothing waits at the point or what waits there is
dropped before it is sent. -/
theorem framesAfter_late_iff (earlier later : List (AudioMark α)) :
    (∀ frame ∈ framesAfter earlier later, ∀ p ∈ frame, p.2 = .late) ↔
      (replay [] earlier).2 = [] ∨ carried later = false := by
  rw [framesAfter_iff (P := (· = .late)) rfl]
  refine or_congr_left ⟨fun h => ?_, fun h => ?_⟩
  · have hnil : waitingOf earlier = [] :=
      List.eq_nil_iff_forall_not_mem.mpr fun p hp => ne_late_of_mem_waitingOf hp (h p hp)
    rw [← map_fst_waitingOf, hnil]
    rfl
  · rw [← map_fst_waitingOf, List.map_eq_nil_iff] at h
    simp [h]

end AudioMark

/-! ### Marks of the buffer's operations -/

namespace AudioBuffer

/-- What a write does to the audio. -/
def writeMarks (b : AudioBuffer) (chunk : Bytes) : List (AudioMark UInt8) :=
  match (b.write chunk).1 with
  | .written _ => [.stored chunk]
  | .overrun _ n _ => [.lost, .stored (chunk.take n)]

theorem replay_writeMarks {b : AudioBuffer} (h : b.IsSound) (chunk : Bytes) :
    AudioMark.replay b.pending (b.writeMarks chunk) = ([], (b.write chunk).2.pending) := by
  unfold writeMarks AudioBuffer.write
  split <;> rename_i heq <;> split at heq
  · rename_i hfits
    cases heq
    rw [if_pos hfits, pending_append h]
    rfl
  · dsimp only at heq
    split at heq <;> cases heq
  · cases heq
  · rename_i hbig
    rw [if_neg hbig]
    dsimp only at heq ⊢
    split at heq
    · rename_i hfits
      cases heq
      rw [if_pos hfits]
      have happend := @pending_append b.reset h.reset chunk
      rw [pending_reset, List.nil_append] at happend
      simp only [AudioMark.replay, List.take_length, List.nil_append]
      exact congrArg (Prod.mk []) happend.symm
    · rename_i hfits
      cases heq
      rw [if_neg hfits]
      have hreset := pending_reset b
      simp only [AudioMark.replay, List.take_zero, List.append_nil]
      exact congrArg (Prod.mk []) hreset.symm

/-- To commit bytes of the slot leaves what waits in front of them. -/
theorem pending_commit {b : AudioBuffer} (h : b.IsSound) (bytes : Bytes) (n : Nat) :
    b.pending <+: ((b.fillSlot bytes).advance n).2.pending := by
  have hcursor : b.cursor ≤ ((b.fillSlot bytes).advance n).2.cursor := by
    have hle := h.cursor_le
    unfold advance
    split
    · exact hle
    · exact Nat.le_add_right b.cursor n
  have hcells : ((b.fillSlot bytes).advance n).2.cells = b.overlay (bytes.take b.slot.length) := by
    unfold advance
    split <;> rfl
  have hreserve : ((b.fillSlot bytes).advance n).2.reserve = b.reserve := by
    unfold advance
    split <;> rfl
  unfold pending
  rw [hcells, hreserve]
  refine List.IsPrefix.drop ?_ b.reserve
  rw [List.prefix_take_iff, overlay, List.append_assoc]
  exact ⟨List.prefix_append _ _, Nat.le_trans (List.length_take_le _ _) hcursor⟩

end AudioBuffer

end VoiceBridge
