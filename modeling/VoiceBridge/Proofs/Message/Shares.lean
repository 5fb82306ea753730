import Mathlib.Algebra.Order.Floor.Div
import VoiceBridge.Proofs.Message.Split

/-!
# How a payload is shared out

`Fragment.split` gives every fragment of a message the same share of the payload, rounded up and at least
one byte, for as long as there are bytes left. `split_shares` says what that comes to: as many fragments
as were asked for, each of which knows its place in the message and how many bytes follow it, and shares
that only ever get smaller.

A fragment is met as the one between those `before` it and those `after` it, so that its place and its
estimate are read off these two lists. The last fragment takes what is left, which is no more than a
share because the shares cover the payload (`le_mul_chunkLength`).
-/

namespace VoiceBridge.Fragment

variable {kind : PayloadKind} {chunk parts : Nat} {first : Bool} {rest : Bytes}

/-! ### Places -/

theorem size_cut (kind : PayloadKind) (chunk parts : Nat) (first : Bool) (rest : Bytes)
    (h : 0 < parts) : size (cut kind chunk parts first rest) = rest.length := by
  rw [← length_bytes, bytes, List.flatMap_def, flatten_payload_cut kind chunk parts first rest h]

/-- What a fragment says of itself is settled by those around it. -/
theorem place_of_cut : ∀ (before after : List Fragment) (f : Fragment),
    cut kind chunk parts first rest = before ++ f :: after →
      f.kind = kind ∧ f.isFirst = (first && before.isEmpty) ∧ f.isFinal = after.isEmpty ∧
        f.remaining = size after := by
  fun_induction cut kind chunk parts first rest with
  | case1 => simp
  | case2 first rest =>
    intro before after f h
    cases before with
    | nil =>
      obtain ⟨rfl, rfl⟩ := List.cons.inj h
      simp
    | cons g before => simp at h
  | case3 parts first rest tail ih =>
    intro before after f h
    have hsize : size (cut kind chunk (parts + 1) false tail) = tail.length :=
      size_cut _ _ _ _ _ (Nat.succ_pos _)
    cases before with
    | nil =>
      obtain ⟨rfl, rfl⟩ := List.cons.inj h
      have hmore : cut kind chunk (parts + 1) false tail ≠ [] := by
        rw [← List.length_pos_iff, length_cut]
        exact Nat.succ_pos parts
      simp [hsize, hmore]
    | cons g before => simpa using ih before after f (List.cons.inj h).2

/-! ### Shares -/

theorem chunkLength_eq (length parts : Nat) : chunkLength length parts = max 1 (length ⌈/⌉ parts) := by
  rw [chunkLength, Nat.ceilDiv_eq_add_pred_div, Nat.max_comm]

/-- The shares cover the payload. -/
theorem le_mul_chunkLength (length : Nat) {parts : Nat} (h : 0 < parts) :
    length ≤ parts * chunkLength length parts := by
  rw [← ceilDiv_le_iff_le_mul h, chunkLength_eq]
  exact le_max_right _ _

/-- What is left behind a share is covered by the shares that are left. -/
theorem length_drop_le_mul (h : rest.length ≤ (parts + 1) * chunk) :
    (rest.drop chunk).length ≤ parts * chunk := by
  rw [List.length_drop, Nat.sub_le_iff_le_add, ← Nat.succ_mul]
  exact h

/-- No fragment takes more than its share or more than there is. -/
theorem length_le_of_mem_cut (h : rest.length ≤ parts * chunk) :
    ∀ f ∈ cut kind chunk parts first rest, f.payload.length ≤ min chunk rest.length := by
  fun_induction cut kind chunk parts first rest with
  | case1 => simp
  | case2 first rest => simpa using h
  | case3 parts first rest tail ih =>
    have htail : tail.length ≤ rest.length := (List.drop_sublist chunk rest).length_le
    intro f hf
    rcases List.mem_cons.mp hf with rfl | hf
    · exact le_of_eq List.length_take
    · exact (ih (length_drop_le_mul h) f hf).trans (min_le_min_left chunk htail)

/-- A fragment that takes less than its share leaves nothing to those behind it. -/
theorem pairwise_length_cut (h : rest.length ≤ parts * chunk) :
    (cut kind chunk parts first rest).Pairwise fun f g => g.payload.length ≤ f.payload.length := by
  fun_induction cut kind chunk parts first rest with
  | case1 => exact .nil
  | case2 first rest => exact List.pairwise_singleton _ _
  | case3 parts first rest tail ih =>
    have htail : tail.length ≤ rest.length := (List.drop_sublist chunk rest).length_le
    refine .cons (fun g hg => ?_) (ih (length_drop_le_mul h))
    have hshare := length_le_of_mem_cut (length_drop_le_mul h) g hg
    rw [List.length_take]
    exact hshare.trans (min_le_min_left chunk htail)

/-! ### Whole messages -/

/-- What `split` makes of a payload, into however many parts: one fragment for each of them, or a single
one for none, which carry the payload among them. The first and the last know that they are, and every
fragment knows how many bytes are still to come. No share is larger than the one before it, nor than an
even share rounded up, or than one byte where there are more parts than bytes. -/
theorem split_shares (kind : PayloadKind) (payload : Bytes) (parts : Nat) :
    let fs := split kind payload parts
    fs.length = max parts 1 ∧ bytes fs = payload ∧
    (∀ before f after, fs = before ++ f :: after →
      f.kind = kind ∧ (f.isFirst = true ↔ before = []) ∧ (f.isFinal = true ↔ after = []) ∧
        f.remaining = size after) ∧
    fs.Pairwise (fun f g => g.payload.length ≤ f.payload.length) ∧
    ∀ f ∈ fs, f.payload.length ≤ max 1 (payload.length ⌈/⌉ max parts 1) := by
  intro fs
  have hparts : 0 < max parts 1 := Nat.lt_of_lt_of_le Nat.zero_lt_one (Nat.le_max_right _ _)
  have hcovered := le_mul_chunkLength payload.length hparts
  refine ⟨length_split kind payload parts, bytes_split kind payload parts, ?_,
    pairwise_length_cut hcovered, ?_⟩
  · intro before f after h
    obtain ⟨hkind, hfirst, hfinal, hremaining⟩ := place_of_cut before after f h
    refine ⟨hkind, ?_, ?_, hremaining⟩
    · rw [hfirst, Bool.true_and, List.isEmpty_iff]
    · rw [hfinal, List.isEmpty_iff]
  · intro f hf
    have hshare := length_le_of_mem_cut hcovered f hf
    rw [← chunkLength_eq]
    exact hshare.trans (min_le_left _ _)

/-- Two bytes in four parts: the third part is empty, and one more follows it. -/
theorem split_shares_scant :
    let before : List Fragment := [⟨.text, [7], true, false, 1⟩, ⟨.text, [8], false, false, 0⟩]
    let f : Fragment := ⟨.text, [], false, false, 0⟩
    let after : List Fragment := [⟨.text, [], false, true, 0⟩]
    split .text [7, 8] 4 = before ++ f :: after ∧
      (f.kind = .text ∧ (f.isFirst = true ↔ before = []) ∧ (f.isFinal = true ↔ after = []) ∧
        f.remaining = size after) ∧
      f ∈ split .text [7, 8] 4 ∧ f.payload.length ≤ max 1 (2 ⌈/⌉ max 4 1) := by
  intro before f after
  obtain ⟨-, -, hplace, -, hshare⟩ := split_shares .text [7, 8] 4
  have hsplit : split .text [7, 8] 4 = before ++ f :: after := rfl
  have hmem : f ∈ split .text [7, 8] 4 := by decide
  exact ⟨hsplit, hplace before f after hsplit, hmem, hshare f hmem⟩

end VoiceBridge.Fragment
