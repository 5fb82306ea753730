import VoiceBridge.Audio.Buffer

/-!
# Soundness of the audio buffer

Everything that producers and drivers do with a buffer keeps its cursor between the reserve and the
capacity. In a sound buffer `hasPending` says that there are bytes to send.
-/

namespace VoiceBridge.AudioBuffer

theorem IsSound.withLowSpace {b : AudioBuffer} (h : b.IsSound) (level : Nat) :
    (b.withLowSpace level).IsSound := ⟨h.reserve_le, h.cursor_le, h.length_cells⟩

theorem IsSound.beginCycle {b : AudioBuffer} (h : b.IsSound) : b.beginCycle.IsSound :=
  ⟨Nat.le_refl _, Nat.le_trans h.reserve_le h.cursor_le, h.length_cells⟩

theorem IsSound.write {b : AudioBuffer} (h : b.IsSound) (chunk : Bytes) :
    (b.write chunk).2.IsSound := by
  unfold AudioBuffer.write
  split
  · rename_i hfits
    exact h.append hfits
  · dsimp only
    split
    · rename_i hfits
      have happend := h.reset.append hfits
      exact ⟨happend.reserve_le, happend.cursor_le, happend.length_cells⟩
    · exact ⟨Nat.le_refl _, h.reset.cursor_le, h.length_cells⟩

theorem IsSound.fillSlot {b : AudioBuffer} (h : b.IsSound) (bytes : Bytes) :
    (b.fillSlot bytes).IsSound := by
  refine ⟨h.reserve_le, h.cursor_le, length_overlay h ?_⟩
  have hslot : b.slot.length = b.space := by rw [slot, List.length_drop, h.length_cells]; rfl
  rw [← hslot]
  exact List.length_take_le _ _

theorem IsSound.advance {b : AudioBuffer} (h : b.IsSound) (n : Nat) : (b.advance n).2.IsSound := by
  have h₁ := h.reserve_le
  have h₂ := h.cursor_le
  unfold AudioBuffer.advance
  split
  · exact ⟨Nat.le_trans h₁ h₂, Nat.le_refl _, h.length_cells⟩
  · rename_i hfits
    unfold space at hfits
    refine ⟨Nat.le_trans h₁ (Nat.le_add_right _ _), ?_, h.length_cells⟩
    change b.cursor + n ≤ b.capacity
    omega

theorem hasPending_reset (b : AudioBuffer) : b.reset.hasPending = false := by
  simp [hasPending, reset]

/-- There is something to send where the cursor is past the reserve. -/
theorem pending_ne_nil {b : AudioBuffer} (h : b.IsSound) (hp : b.hasPending = true) :
    b.pending ≠ [] := by
  have hlt : b.reserve < b.cursor := of_decide_eq_true hp
  intro hnil
  have hlen := length_pending h
  rw [hnil, pendingLength, List.length_nil] at hlen
  omega

/-- There is nothing to send where the cursor is not past the reserve. -/
theorem pending_eq_nil {b : AudioBuffer} (hp : b.hasPending = false) : b.pending = [] := by
  have hle : b.cursor ≤ b.reserve := Nat.le_of_not_lt (of_decide_eq_false hp)
  exact List.drop_eq_nil_of_le (Nat.le_trans (List.length_take_le _ _) hle)

theorem pending_of_create {capacity reserve : Nat} {b : AudioBuffer}
    (h : create capacity reserve = .ok b) : b.pending = [] := by
  unfold create at h
  split at h
  · cases h
  · cases h
    exact pending_eq_nil (decide_eq_false (Nat.lt_irrefl _))

end VoiceBridge.AudioBuffer
