import Mathlib.Algebra.Order.Floor.Div
import VoiceBridge.Proofs.Message.Split

/-!
# The room set aside for a message

An assembly sets room aside for the message in progress. The estimate that comes with the first fragment
is the sender's and may be anything, so what the room is worth rests on two facts alone: it covers what
has been received and stays within the limit (`Roomy`). Both hold after any pushes and clears.

A fragment that fits into the room leaves it as it is, and one that does not adds as few whole steps as
cover it (`isLeast_steps`). All this is in unbounded numbers, and `grow_sums_lt` says for which limits the
numbers of a machine come to the same. Hence room never shrinks along a message, and an estimate that was
not too low is never corrected.
-/

namespace VoiceBridge

/-- What a driver does with an assembly. -/
inductive AssemblyOp where
  | push (f : Fragment)
  | clear
  deriving Repr, DecidableEq

namespace Assembly

open Fragment

variable {limits : AssemblyLimits} {a : Assembly} {f : Fragment} {fs : List Fragment}

/-- The assembly after one operation. -/
def perform (a : Assembly) : AssemblyOp → Assembly
  | .push f => (a.push f).2
  | .clear => a.clear

/-- The assembly after operations, one after the other. -/
def performAll (a : Assembly) (ops : List AssemblyOp) : Assembly := ops.foldl perform a

theorem limits_performAll (a : Assembly) (ops : List AssemblyOp) :
    (a.performAll ops).limits = a.limits := by
  induction ops generalizing a with
  | nil => rfl
  | cons op ops ih =>
    have hone : (a.perform op).limits = a.limits := by
      cases op with
      | push f => exact limits_push a f
      | clear => rfl
    exact (ih (a.perform op)).trans hone

/-! ### Growing -/

/-- The steps that are added are the fewest that cover the need. -/
theorem isLeast_steps {step : Nat} (hstep : 0 < step) (capacity needed : Nat) :
    IsLeast {n | needed ≤ capacity + n * step} ((needed - capacity) ⌈/⌉ step) := by
  have hcovers : ∀ n, needed ≤ capacity + n * step ↔ (needed - capacity) ⌈/⌉ step ≤ n := by
    intro n
    rw [ceilDiv_le_iff_le_mul hstep, Nat.sub_le_iff_le_add', Nat.mul_comm]
  constructor
  · exact (hcovers _).mpr le_rfl
  · intro n hn
    exact (hcovers n).mp hn

theorem grow_of_le {capacity needed : Nat} (h : needed ≤ capacity) :
    grow limits capacity needed = capacity := if_pos h

/-- Room grows by whole steps as far as the limit allows; where none is needed, by none. -/
theorem grow_eq {capacity : Nat} (hwithin : capacity ≤ limits.maxMessage) (needed : Nat) :
    grow limits capacity needed =
      min (capacity + (needed - capacity) ⌈/⌉ max limits.growth 1 * max limits.growth 1)
        limits.maxMessage := by
  by_cases hfits : needed ≤ capacity
  · rw [grow_of_le hfits, Nat.sub_eq_zero_of_le hfits, zero_ceilDiv, Nat.zero_mul, Nat.add_zero,
      Nat.min_eq_left hwithin]
  · rw [grow, if_neg hfits, Nat.ceilDiv_eq_add_pred_div]

theorem le_grow {capacity needed : Nat} (hwithin : capacity ≤ limits.maxMessage)
    (hneeded : needed ≤ limits.maxMessage) : needed ≤ grow limits capacity needed := by
  rw [grow_eq hwithin]
  apply le_min _ hneeded
  exact (isLeast_steps (Nat.lt_of_lt_of_le Nat.zero_lt_one (le_max_right _ _)) capacity needed).1

theorem capacity_le_grow {capacity : Nat} (hwithin : capacity ≤ limits.maxMessage) (needed : Nat) :
    capacity ≤ grow limits capacity needed := by
  rw [grow_eq hwithin]
  exact le_min (Nat.le_add_right _ _) hwithin

theorem grow_le {capacity : Nat} (hwithin : capacity ≤ limits.maxMessage) (needed : Nat) :
    grow limits capacity needed ≤ limits.maxMessage := by
  rw [grow_eq hwithin]
  exact min_le_right _ _

/-- No sum on the way is larger than the limit and one step together. Where these two fit into a word, the
growth is thus the same in words of that size. -/
theorem grow_sums_lt {word capacity needed : Nat}
    (hword : limits.maxMessage + max limits.growth 1 < word) (hneeded : needed ≤ limits.maxMessage) :
    let step := max limits.growth 1
    needed - capacity + step < word ∧ (needed - capacity + step - 1) / step * step < word := by
  intro step
  have hsum : needed - capacity + step < word := by omega
  constructor
  · exact hsum
  · calc (needed - capacity + step - 1) / step * step ≤ needed - capacity + step - 1 :=
          Nat.div_mul_le_self _ _
      _ < word := by omega

/-! ### Room at all times -/

/-- The room covers what is received and stays within the limit. -/
structure Roomy (a : Assembly) : Prop where
  covers : a.received ≤ a.capacity
  within : a.capacity ≤ a.limits.maxMessage

theorem received_of_not_assembling (h : a.isAssembling = false) : a.received = 0 ∧ a.capacity = 0 := by
  obtain ⟨limits, state⟩ := a
  cases state with
  | collecting => cases h
  | idle => exact ⟨rfl, rfl⟩
  | discarding => exact ⟨rfl, rfl⟩

theorem Roomy.of_not_assembling (h : a.isAssembling = false) : a.Roomy := by
  obtain ⟨hreceived, hcapacity⟩ := received_of_not_assembling h
  constructor
  · rw [hreceived, hcapacity]
  · rw [hcapacity]
    exact Nat.zero_le _

theorem isAssembling_abandon (a : Assembly) (final : Bool) :
    (a.abandon final).isAssembling = false := by
  cases final <;> rfl

/-- A message in progress goes on with a fragment that neither ends it nor makes it too large. -/
theorem push_of_goesOn (hf : f.isFirst = false) (ha : a.isAssembling = true)
    (hlast : f.isFinal = false) (hfits : a.received + f.payload.length ≤ a.limits.maxMessage) :
    (a.push f).2.isAssembling = true ∧
      (a.push f).2.received = a.received + f.payload.length ∧
      (a.push f).2.capacity = grow a.limits a.capacity (a.received + f.payload.length) := by
  obtain ⟨limits, state⟩ := a
  cases state with
  | collecting kind payload capacity =>
    have hsmall : ¬ limits.maxMessage < payload.length + f.payload.length := Nat.not_lt.mpr hfits
    have hpush : (push ⟨limits, .collecting kind payload capacity⟩ f).2 =
        ⟨limits, .collecting kind (payload ++ f.payload)
          (grow limits capacity (payload.length + f.payload.length))⟩ := by
      rw [push, if_neg (by simp [hf]), pushNext]
      dsimp only
      rw [if_neg hsmall, settle, hlast]
      rfl
    rw [hpush]
    exact ⟨rfl, List.length_append, rfl⟩
  | idle => cases ha
  | discarding => cases ha

/-- No other fragment that is not a first one leaves a message in progress. -/
theorem goesOn_of_push (hf : f.isFirst = false) (h : (a.push f).2.isAssembling = true) :
    a.isAssembling = true ∧ f.isFinal = false ∧
      a.received + f.payload.length ≤ a.limits.maxMessage := by
  obtain ⟨limits, state⟩ := a
  rw [push, if_neg (by simp [hf]), pushNext] at h
  cases state with
  | collecting kind payload capacity =>
    dsimp only at h
    by_cases hfits : limits.maxMessage < payload.length + f.payload.length
    · rw [if_pos hfits, isAssembling_abandon] at h
      cases h
    · rw [if_neg hfits, settle] at h
      cases hlast : f.isFinal with
      | true => simp [hlast, isAssembling, clear] at h
      | false => exact ⟨rfl, rfl, Nat.le_of_not_lt hfits⟩
  | idle => cases h
  | discarding =>
    dsimp only at h
    rw [isAssembling_abandon] at h
    cases h

/-- A first fragment begins a message unless it is the whole of it or too large. -/
theorem push_of_first (hf : f.isFirst = true) (h : (a.push f).2.isAssembling = true) :
    f.payload.length ≤ a.limits.maxMessage ∧ (a.push f).2.received = f.payload.length ∧
      (a.push f).2.capacity = min (f.payload.length + f.remaining) a.limits.maxMessage := by
  rw [push, if_pos hf, pushFirst] at h ⊢
  by_cases hfits : a.limits.maxMessage < f.payload.length
  · rw [if_pos hfits, isAssembling_abandon] at h
    cases h
  · rw [if_neg hfits, settle] at h ⊢
    cases hlast : f.isFinal with
    | true => simp [hlast, isAssembling, clear] at h
    | false => exact ⟨Nat.le_of_not_lt hfits, rfl, rfl⟩

theorem Roomy.push (h : a.Roomy) (f : Fragment) : (a.push f).2.Roomy := by
  by_cases hon : (a.push f).2.isAssembling = true
  · cases hf : f.isFirst with
    | true =>
      obtain ⟨hfits, hreceived, hcapacity⟩ := push_of_first hf hon
      constructor
      · rw [hreceived, hcapacity]
        exact le_min (Nat.le_add_right _ _) hfits
      · rw [hcapacity, limits_push]
        exact min_le_right _ _
    | false =>
      obtain ⟨ha, hlast, hfits⟩ := goesOn_of_push hf hon
      obtain ⟨-, hreceived, hcapacity⟩ := push_of_goesOn hf ha hlast hfits
      constructor
      · rw [hreceived, hcapacity]
        exact le_grow h.within hfits
      · rw [hcapacity, limits_push]
        exact grow_le h.within _
  · exact .of_not_assembling (by simpa using hon)

theorem Roomy.pushAll (h : a.Roomy) (fs : List Fragment) : (a.pushAll fs).2.Roomy := by
  induction fs generalizing a with
  | nil => exact h
  | cons f fs ih => exact ih (h.push f)

theorem Roomy.performAll (h : a.Roomy) (ops : List AssemblyOp) : (a.performAll ops).Roomy := by
  induction ops generalizing a with
  | nil => exact h
  | cons op ops ih =>
    apply ih
    cases op with
    | push f => exact h.push f
    | clear => exact .of_not_assembling rfl

/-! ### Along a message -/

/-- A message that is in progress behind fragments that begin none was so before them. -/
theorem isAssembling_of_pushAll (hfs : ∀ f ∈ fs, f.isFirst = false)
    (h : (a.pushAll fs).2.isAssembling = true) : a.isAssembling = true := by
  induction fs generalizing a with
  | nil => exact h
  | cons f fs ih =>
    have hmid := ih (fun g hg => hfs g (List.mem_cons_of_mem f hg)) h
    exact (goesOn_of_push (hfs f List.mem_cons_self) hmid).1

/-- Along a message the room never shrinks, nor does what is received. -/
theorem capacity_le_pushAll (hroomy : a.Roomy) (hfs : ∀ f ∈ fs, f.isFirst = false)
    (h : (a.pushAll fs).2.isAssembling = true) :
    a.capacity ≤ (a.pushAll fs).2.capacity ∧
      (a.pushAll fs).2.received = a.received + size fs := by
  induction fs generalizing a with
  | nil => exact ⟨le_rfl, rfl⟩
  | cons f fs ih =>
    have hf := hfs f List.mem_cons_self
    have htail : ∀ g ∈ fs, g.isFirst = false := fun g hg => hfs g (List.mem_cons_of_mem f hg)
    obtain ⟨ha, hlast, hfits⟩ := goesOn_of_push hf (isAssembling_of_pushAll htail h)
    obtain ⟨-, hreceived, hcapacity⟩ := push_of_goesOn hf ha hlast hfits
    obtain ⟨hlater, hsize⟩ := ih (hroomy.push f) htail h
    constructor
    · calc a.capacity ≤ (a.push f).2.capacity := by
            rw [hcapacity]
            exact capacity_le_grow hroomy.within _
        _ ≤ ((a.push f).2.pushAll fs).2.capacity := hlater
    · calc ((a.push f).2.pushAll fs).2.received = a.received + f.payload.length + size fs := by
            rw [hsize, hreceived]
        _ = a.received + size (f :: fs) := by
            simp only [size, List.map_cons, List.sum_cons]
            omega

/-- As long as the message fits into the room it began with, the room stays. -/
theorem capacity_pushAll_of_le (hroomy : a.Roomy) (hfs : ∀ f ∈ fs, f.isFirst = false)
    (h : (a.pushAll fs).2.isAssembling = true) (hfits : a.received + size fs ≤ a.capacity) :
    (a.pushAll fs).2.capacity = a.capacity := by
  induction fs generalizing a with
  | nil => rfl
  | cons f fs ih =>
    have hf := hfs f List.mem_cons_self
    have htail : ∀ g ∈ fs, g.isFirst = false := fun g hg => hfs g (List.mem_cons_of_mem f hg)
    obtain ⟨ha, hlast, hsmall⟩ := goesOn_of_push hf (isAssembling_of_pushAll htail h)
    obtain ⟨-, hreceived, hcapacity⟩ := push_of_goesOn hf ha hlast hsmall
    have hsplit : size (f :: fs) = f.payload.length + size fs := by simp [size]
    have hkept : (a.push f).2.capacity = a.capacity := by
      rw [hcapacity, grow_of_le (by omega)]
    calc (a.pushAll (f :: fs)).2.capacity = (a.push f).2.capacity := by
          apply ih (hroomy.push f) htail h
          rw [hreceived, hkept]
          omega
      _ = a.capacity := hkept

theorem size_take_le (fs : List Fragment) (k : Nat) : size (fs.take k) ≤ size fs := by
  conv_rhs => rw [← List.take_append_drop k fs, size_append]
  exact Nat.le_add_right _ _

/-- An estimate that is not too low is never corrected. -/
theorem capacity_of_estimate (hroomy : a.Roomy) {first : Fragment} {rest : List Fragment}
    (hfirst : first.isFirst = true) (hrest : ∀ f ∈ rest, f.isFirst = false)
    (hestimate : size rest ≤ first.remaining) (k : Nat)
    (h : (a.pushAll (first :: rest.take k)).2.isAssembling = true) :
    (a.pushAll (first :: rest.take k)).2.capacity = (a.push first).2.capacity := by
  have htake : ∀ f ∈ rest.take k, f.isFirst = false := fun f hf => hrest f (List.mem_of_mem_take hf)
  have hbegun := isAssembling_of_pushAll htake h
  obtain ⟨-, hreceived, hcapacity⟩ := push_of_first hfirst hbegun
  have hroom := hroomy.push first
  apply capacity_pushAll_of_le hroom htake h
  -- The message came this far, so it is within the limit as well.
  have hlimit : first.payload.length + size (rest.take k) ≤ a.limits.maxMessage := by
    obtain ⟨-, hsize⟩ := capacity_le_pushAll hroom htake h
    have hlater := hroom.pushAll (rest.take k)
    have hwithin := hlater.covers.trans hlater.within
    rw [hsize, hreceived, limits_pushAll, limits_push] at hwithin
    exact hwithin
  have hpart := size_take_le rest k
  rw [hreceived, hcapacity]
  exact le_min (by omega) hlimit

/-- A message goes on in the room it has and as few whole steps as cover the need, cut to the limit. -/
theorem Roomy.grows (h : a.Roomy) (hf : f.isFirst = false) (ha : a.isAssembling = true)
    (hlast : f.isFinal = false) (hfits : a.received + f.payload.length ≤ a.limits.maxMessage) :
    (a.push f).2.isAssembling = true ∧
      (a.push f).2.received = a.received + f.payload.length ∧
      (a.push f).2.received ≤ (a.push f).2.capacity ∧
      ∃ steps, IsLeast {n | a.received + f.payload.length ≤ a.capacity + n * max a.limits.growth 1}
          steps ∧
        (a.push f).2.capacity =
          min (a.capacity + steps * max a.limits.growth 1) a.limits.maxMessage := by
  obtain ⟨hon, hreceived, hcapacity⟩ := push_of_goesOn hf ha hlast hfits
  refine ⟨hon, hreceived, (h.push f).covers, _, isLeast_steps ?_ _ _, ?_⟩
  · exact Nat.lt_of_lt_of_le Nat.zero_lt_one (le_max_right _ _)
  · rw [hcapacity]
    exact grow_eq h.within _

/-- Behind any pushes and clears the room covers the message in progress within the limit, and without
one there is none. Along a message it never shrinks, it grows by as few whole steps as cover the need,
and it stays as it began where the estimate was not too low. -/
theorem room_for_message (limits : AssemblyLimits) (ops : List AssemblyOp) :
    let a := performAll { limits } ops
    (a.isAssembling = true → a.received ≤ a.capacity ∧ a.capacity ≤ limits.maxMessage) ∧
      (a.isAssembling = false → a.received = 0 ∧ a.capacity = 0) ∧
      (∀ fs, (∀ f ∈ fs, f.isFirst = false) → (a.pushAll fs).2.isAssembling = true →
        a.capacity ≤ (a.pushAll fs).2.capacity) ∧
      (∀ f, f.isFirst = false → a.isAssembling = true → f.isFinal = false →
        a.received + f.payload.length ≤ limits.maxMessage →
        (a.push f).2.isAssembling = true ∧
          (a.push f).2.received = a.received + f.payload.length ∧
          (a.push f).2.received ≤ (a.push f).2.capacity ∧
          ∃ steps, IsLeast {n | a.received + f.payload.length ≤ a.capacity + n * max limits.growth 1}
              steps ∧
            (a.push f).2.capacity = min (a.capacity + steps * max limits.growth 1) limits.maxMessage) ∧
      (∀ first rest, first.isFirst = true → (∀ f ∈ rest, f.isFirst = false) →
        size rest ≤ first.remaining → ∀ k,
          (a.pushAll (first :: rest.take k)).2.isAssembling = true →
            (a.pushAll (first :: rest.take k)).2.capacity = (a.push first).2.capacity) := by
  intro a
  have hroomy : a.Roomy := (Roomy.of_not_assembling rfl).performAll ops
  have hlimits : a.limits = limits := limits_performAll _ ops
  refine ⟨?_, received_of_not_assembling, ?_, ?_, ?_⟩
  · intro _
    exact ⟨hroomy.covers, hlimits ▸ hroomy.within⟩
  · intro fs hfs hon
    exact (capacity_le_pushAll hroomy hfs hon).1
  · intro f hf ha hlast hfits
    rw [← hlimits] at hfits ⊢
    exact hroomy.grows hf ha hlast hfits
  · intro first rest hfirst hrest hestimate k hon
    exact capacity_of_estimate hroomy hfirst hrest hestimate k hon

/-- A message that outgrows the room its estimate gave it. -/
def outgrowing : List AssemblyOp :=
  [.clear, .push ⟨.text, [1, 2], true, false, 1⟩, .push ⟨.text, [3, 4], false, false, 0⟩]

/-- The next fragment needs all the limit allows, which is less than two steps more. -/
theorem room_for_message_outgrowing :
    let a := performAll { limits := ⟨9, 4⟩ } outgrowing
    let next : Fragment := ⟨.text, [5, 6, 7, 8, 9], false, false, 0⟩
    a.received = 4 ∧ a.capacity = 7 ∧ (a.push next).2.received = 9 ∧ (a.push next).2.capacity = 9 := by
  intro a next
  obtain ⟨-, -, -, hgrows, -⟩ := room_for_message ⟨9, 4⟩ outgrowing
  obtain ⟨-, hreceived, hcovers, steps, -, hcapacity⟩ :=
    hgrows next rfl (by decide) rfl (by decide)
  have hnine : (a.push next).2.received = 9 := by
    rw [hreceived]
    decide
  constructor
  · decide
  constructor
  · decide
  constructor
  · exact hnine
  · apply le_antisymm
    · rw [hcapacity]
      exact min_le_right _ _
    · exact hnine ▸ hcovers

end Assembly

end VoiceBridge
