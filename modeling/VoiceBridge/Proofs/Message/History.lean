import Mathlib.Algebra.GroupWithZero.Nat
import Mathlib.Data.List.Basic
import VoiceBridge.Message.Assembly

/-!
# Reassembly as a function of the history

An `Assembly` looks at a fragment once and forgets it. What it answers to a fragment is nevertheless
a matter of the fragments so far and of the size limit alone: the message that a fragment belongs to
begins at the last first fragment, and it is given up once a final fragment or too many bytes have
come. `verdict` reads the answer off the history, and `pushAll_eq_verdicts` says that it is the one
given.

The three states of the machine are related to the message in progress by `Stands`: only an ended
message, or none, leaves it idle, and it skips exactly an unended message that is too large.
-/

namespace VoiceBridge

namespace Fragment

/-- The bytes that the fragments carry. -/
def bytes (fs : List Fragment) : Bytes := fs.flatMap payload

/-- How many bytes the fragments carry. -/
def size (fs : List Fragment) : Nat := (fs.map (·.payload.length)).sum

@[simp] theorem bytes_nil : bytes [] = [] := rfl

@[simp] theorem bytes_append (fs gs : List Fragment) : bytes (fs ++ gs) = bytes fs ++ bytes gs := by
  simp [bytes]

@[simp] theorem bytes_singleton (f : Fragment) : bytes [f] = f.payload := by simp [bytes]

@[simp] theorem size_nil : size [] = 0 := rfl

@[simp] theorem size_append (fs gs : List Fragment) : size (fs ++ gs) = size fs + size gs := by
  simp [size]

@[simp] theorem size_singleton (f : Fragment) : size [f] = f.payload.length := by simp [size]

theorem length_bytes (fs : List Fragment) : (bytes fs).length = size fs := by
  simp [bytes, size, List.length_flatMap]

/-- The message in progress behind a history: its kind and its fragments, those from the last first
one on. -/
def lastMessage? : List Fragment → Option (PayloadKind × List Fragment)
  | [] => none
  | f :: fs => (lastMessage? fs).or (if f.isFirst then some (f.kind, f :: fs) else none)

theorem lastMessage?_concat (fs : List Fragment) (f : Fragment) :
    lastMessage? (fs ++ [f]) =
      if f.isFirst then some (f.kind, [f]) else (lastMessage? fs).map fun m => (m.1, m.2 ++ [f]) := by
  induction fs with
  | nil => simp [lastMessage?]
  | cons g fs ih =>
    rw [List.cons_append, lastMessage?, ih, lastMessage?]
    cases f.isFirst with
    | true => simp
    | false =>
      cases lastMessage? fs with
      | none => cases g.isFirst <;> simp
      | some m => simp

theorem lastMessage?_eq_none {fs : List Fragment} (h : ∀ f ∈ fs, f.isFirst = false) :
    lastMessage? fs = none := by
  induction fs with
  | nil => rfl
  | cons f fs ih =>
    have htail : lastMessage? fs = none := ih fun g hg => h g (List.mem_cons_of_mem f hg)
    simp [lastMessage?, htail, h f List.mem_cons_self]

/-- The message begins at the first fragment that no other one follows. -/
theorem lastMessage?_append_cons {front rest : List Fragment} {f : Fragment}
    (hf : f.isFirst = true) (h : ∀ g ∈ rest, g.isFirst = false) :
    lastMessage? (front ++ f :: rest) = some (f.kind, f :: rest) := by
  induction front with
  | nil => simp [lastMessage?, lastMessage?_eq_none h, hf]
  | cons g front ih => rw [List.cons_append, lastMessage?, ih, Option.some_or]

end Fragment

namespace Assembly

open Fragment

/-- Take fragments one after the other. -/
def pushAll (a : Assembly) : List Fragment → List PushOutcome × Assembly
  | [] => ([], a)
  | f :: fs => ((a.push f).1 :: ((a.push f).2.pushAll fs).1, ((a.push f).2.pushAll fs).2)

/-- What becomes of a fragment that arrives behind `history`. -/
def verdict (limits : AssemblyLimits) (history : List Fragment) (f : Fragment) : PushOutcome :=
  match lastMessage? (history ++ [f]) with
  | none => .skipped
  | some (kind, message) =>
    if message.dropLast.any isFinal || limits.maxMessage < size message.dropLast then .skipped
    else if limits.maxMessage < size message then .oversized (size message)
    else if f.isFinal then .complete ⟨kind, bytes message⟩
    else .incomplete

/-- What becomes of the fragments that follow `history`. -/
def verdicts (limits : AssemblyLimits) (history : List Fragment) : List Fragment → List PushOutcome
  | [] => []
  | f :: fs => verdict limits history f :: verdicts limits (history ++ [f]) fs

theorem length_verdicts (limits : AssemblyLimits) (history fs : List Fragment) :
    (verdicts limits history fs).length = fs.length := by
  induction fs generalizing history with
  | nil => rfl
  | cons f fs ih => simp [verdicts, ih]

theorem verdicts_append (limits : AssemblyLimits) (history fs gs : List Fragment) :
    verdicts limits history (fs ++ gs) =
      verdicts limits history fs ++ verdicts limits (history ++ fs) gs := by
  induction fs generalizing history with
  | nil => simp [verdicts]
  | cons f fs ih => simp [verdicts, ih]

theorem getElem?_verdicts (limits : AssemblyLimits) (history fs : List Fragment) (k : Nat) :
    (verdicts limits history fs)[k]? = fs[k]?.map (verdict limits (history ++ fs.take k)) := by
  induction fs generalizing history k with
  | nil => simp [verdicts]
  | cons f fs ih =>
    cases k with
    | zero => simp [verdicts]
    | succ k => simp [verdicts, ih]

/-- How the machine stands once `message` is the one in progress. -/
inductive Stands (limits : AssemblyLimits) :
    Option (PayloadKind × List Fragment) → AssemblyState → Prop
  | nothing : Stands limits none .idle
  | ended {kind : PayloadKind} {message : List Fragment} (h : message.any isFinal = true) :
    Stands limits (some (kind, message)) .idle
  | dropped {kind : PayloadKind} {message : List Fragment} (h : message.any isFinal = false)
    (hsize : limits.maxMessage < size message) : Stands limits (some (kind, message)) .discarding
  | kept {kind : PayloadKind} {message : List Fragment} {capacity : Nat}
    (h : message.any isFinal = false) (hsize : size message ≤ limits.maxMessage) :
    Stands limits (some (kind, message)) (.collecting kind (bytes message) capacity)

@[simp] theorem limits_settle (a : Assembly) (kind : PayloadKind) (payload : Bytes) (capacity : Nat)
    (final : Bool) : (a.settle kind payload capacity final).2.limits = a.limits := by
  cases final <;> rfl

@[simp] theorem limits_push (a : Assembly) (f : Fragment) : (a.push f).2.limits = a.limits := by
  unfold push pushFirst pushNext
  dsimp only
  repeat' split
  all_goals simp [abandon]

/-- A message that is still wanted takes in one more fragment. -/
theorem verdict_of_wanted {a : Assembly} {kind : PayloadKind} {message history : List Fragment}
    {f : Fragment} (h : message.any isFinal = false) (hsize : size message ≤ a.limits.maxMessage)
    (hlast : lastMessage? (history ++ [f]) = some (kind, message ++ [f])) (capacity : Nat)
    {result : PushOutcome × Assembly}
    (hresult : result =
      if a.limits.maxMessage < size (message ++ [f]) then
        (.oversized (size (message ++ [f])), a.abandon f.isFinal)
      else a.settle kind (bytes (message ++ [f])) capacity f.isFinal) :
    result.1 = verdict a.limits history f ∧
      Stands a.limits (lastMessage? (history ++ [f])) result.2.state := by
  have hwanted : (message.any isFinal || decide (a.limits.maxMessage < size message)) = false := by
    simp [h, hsize]
  simp only [verdict, hlast, List.dropLast_concat, hwanted, Bool.false_eq_true, if_false]
  subst hresult
  by_cases hbig : a.limits.maxMessage < size (message ++ [f])
  · simp only [hbig, if_true, abandon, true_and]
    cases hf : f.isFinal with
    | true => exact .ended (by simp [hf])
    | false => exact .dropped (by simp [h, hf]) hbig
  · simp only [hbig, if_false, settle]
    cases hf : f.isFinal with
    | true => exact ⟨rfl, .ended (by simp [hf])⟩
    | false => exact ⟨rfl, .kept (by simp [h, hf]) (Nat.le_of_not_lt hbig)⟩

/-- A message that has ended or is too large skips one more fragment. -/
theorem verdict_of_unwanted {limits : AssemblyLimits} {kind : PayloadKind}
    {message history : List Fragment} {f : Fragment}
    (h : message.any isFinal = true ∨ limits.maxMessage < size message)
    (hlast : lastMessage? (history ++ [f]) = some (kind, message ++ [f])) :
    verdict limits history f = .skipped := by
  simp only [verdict, hlast, List.dropLast_concat]
  rw [if_pos (by simpa using h)]

/-- One fragment gets the answer that the history gives, and the machine stands as it should. -/
theorem push_eq_verdict {a : Assembly} {history : List Fragment}
    (h : Stands a.limits (lastMessage? history) a.state) (f : Fragment) :
    (a.push f).1 = verdict a.limits history f ∧
      Stands a.limits (lastMessage? (history ++ [f])) (a.push f).2.state := by
  have hconcat := lastMessage?_concat history f
  cases hf : f.isFirst with
  | true =>
    have hfirst : lastMessage? (history ++ [f]) = some (f.kind, [] ++ [f]) := by
      simpa [hf] using hconcat
    exact verdict_of_wanted (by rfl) (Nat.zero_le _) hfirst
      (min (f.payload.length + f.remaining) a.limits.maxMessage) (by simp [push, hf, pushFirst])
  | false =>
    rw [hf, if_neg Bool.false_ne_true] at hconcat
    obtain ⟨limits, state⟩ := a
    generalize lastMessage? history = m at h hconcat
    cases h with
    | nothing =>
      have hskip : verdict limits history f = .skipped := by simp [verdict, hconcat]
      rw [hskip, hconcat]
      simpa [push, hf, pushNext] using Stands.nothing
    | ended hfinal =>
      rw [verdict_of_unwanted (.inl hfinal) hconcat, hconcat]
      simpa [push, hf, pushNext] using Stands.ended (by simp [hfinal])
    | @dropped kind message hfinal hsize =>
      rw [verdict_of_unwanted (.inr hsize) hconcat, hconcat]
      cases hlast : f.isFinal with
      | true => simpa [push, hf, pushNext, abandon, hlast] using Stands.ended (by simp [hlast])
      | false =>
        have hbig : limits.maxMessage < size (message ++ [f]) := by
          rw [size_append]
          exact Nat.lt_add_right _ hsize
        simpa [push, hf, pushNext, abandon, hlast] using
          Stands.dropped (by simp [hfinal, hlast]) hbig
    | @kept kind message capacity hfinal hsize =>
      refine verdict_of_wanted hfinal hsize hconcat
        (grow limits capacity (size message + f.payload.length)) ?_
      simp [push, hf, pushNext, length_bytes]

theorem pushAll_eq_verdicts {a : Assembly} {history : List Fragment}
    (h : Stands a.limits (lastMessage? history) a.state) (fs : List Fragment) :
    (a.pushAll fs).1 = verdicts a.limits history fs := by
  induction fs generalizing a history with
  | nil => rfl
  | cons f fs ih =>
    obtain ⟨hanswer, hstands⟩ := push_eq_verdict h f
    have htail := ih (a := (a.push f).2) (by rwa [limits_push])
    rw [limits_push] at htail
    rw [pushAll, verdicts, hanswer, htail]

/-! ### The history by positions -/

/-- The fragments from position `i` on, up to and without the one at `k`. -/
def span (fs : List Fragment) (i k : Nat) : List Fragment := (fs.drop i).take (k - i)

/-- The last first fragment among those up to `k` is the one at `i`. -/
structure StartsAt (fs : List Fragment) (k i : Fin fs.length) : Prop where
  le : i ≤ k
  isFirst : fs[i].isFirst = true
  last : ∀ j, i < j → j ≤ k → fs[j].isFirst = false

/-- The message that begins at `i` is over before `k`: a fragment has ended it or made it too
large. -/
def Over (limits : AssemblyLimits) (fs : List Fragment) (i k : Fin fs.length) : Prop :=
  ∃ j, i ≤ j ∧ j < k ∧ (fs[j].isFinal = true ∨ limits.maxMessage < size (span fs i (j + 1)))

instance (limits : AssemblyLimits) (fs : List Fragment) (i k : Fin fs.length) :
    Decidable (Over limits fs i k) :=
  inferInstanceAs (Decidable (∃ j, i ≤ j ∧ j < k ∧
    (fs[j].isFinal = true ∨ limits.maxMessage < size (span fs i (j + 1)))))

theorem mem_span {fs : List Fragment} {i k : Nat} {f : Fragment} :
    f ∈ span fs i k ↔ ∃ j : Fin fs.length, i ≤ j ∧ j < k ∧ fs[j] = f := by
  rw [span, List.mem_take_iff_getElem]
  constructor
  · rintro ⟨n, hn, rfl⟩
    rw [List.length_drop] at hn
    exact ⟨⟨i + n, by omega⟩, by simp, by simp; omega, by simp⟩
  · rintro ⟨j, hij, hjk, rfl⟩
    refine ⟨j - i, by rw [List.length_drop]; omega, ?_⟩
    simp [Nat.add_sub_cancel' hij]

theorem span_concat {fs : List Fragment} {i : Nat} {k : Fin fs.length} (h : i ≤ k) :
    span fs i (k + 1) = span fs i k ++ [fs[k]] := by
  have hlen : k - i < (fs.drop i).length := by rw [List.length_drop]; omega
  rw [span, Nat.succ_sub h, List.take_succ_eq_append_getElem hlen]
  simp [span, Nat.add_sub_cancel' h]

theorem size_span_mono (fs : List Fragment) (i : Nat) {j k : Nat} (h : j ≤ k) :
    size (span fs i j) ≤ size (span fs i k) := by
  have hfront : span fs i j = (span fs i k).take (j - i) := by
    rw [span, span, List.take_take, Nat.min_eq_left (Nat.sub_le_sub_right h i)]
  rw [hfront, ← List.take_append_drop (j - i) (span fs i k), size_append]
  simp

theorem over_iff {limits : AssemblyLimits} {fs : List Fragment} {i k : Fin fs.length} :
    Over limits fs i k ↔
      (span fs i k).any isFinal = true ∨ limits.maxMessage < size (span fs i k) := by
  constructor
  · rintro ⟨j, hij, hjk, hfinal | hsize⟩
    · exact .inl (List.any_eq_true.mpr ⟨fs[j], mem_span.mpr ⟨j, hij, hjk, rfl⟩, hfinal⟩)
    · exact .inr (Nat.lt_of_lt_of_le hsize (size_span_mono fs i hjk))
  · rintro (hfinal | hsize)
    · obtain ⟨f, hf, hfinal⟩ := List.any_eq_true.mp hfinal
      obtain ⟨j, hij, hjk, rfl⟩ := mem_span.mp hf
      exact ⟨j, hij, hjk, .inl hfinal⟩
    · -- The whole span is the one that ends right before `k`.
      have hik : i.val < k := by
        by_contra hle
        simp [span, Nat.sub_eq_zero_of_le (Nat.le_of_not_lt hle)] at hsize
      refine ⟨⟨k - 1, by omega⟩, ?_, ?_, .inr ?_⟩
      · exact Fin.le_def.mpr (by simp only []; omega)
      · exact Fin.lt_def.mpr (by simp only []; omega)
      · rwa [Nat.sub_add_cancel (by omega)]

theorem lastMessage?_of_startsAt {fs : List Fragment} {k i : Fin fs.length} (h : StartsAt fs k i) :
    lastMessage? (fs.take k ++ [fs[k]]) = some (fs[i].kind, span fs i (k + 1)) := by
  have hik : i.val ≤ k := h.le
  have hhead : span fs i (k + 1) = fs[i] :: span fs (i + 1) (k + 1) := by
    rw [span, List.drop_eq_getElem_cons i.isLt, Nat.succ_sub hik, List.take_succ_cons, span,
      Nat.add_sub_add_right]
    rfl
  have hsplit : fs.take k ++ [fs[k]] = fs.take i ++ span fs i (k + 1) := by
    have htake : fs.take k ++ [fs[k]] = fs.take (i + (k + 1 - i)) := by
      rw [Nat.add_sub_cancel' (by omega)]
      simp
    rw [htake, List.take_add, span]
  rw [hsplit, hhead]
  refine lastMessage?_append_cons h.isFirst fun g hg => ?_
  obtain ⟨j, hij, hjk, rfl⟩ := mem_span.mp hg
  exact h.last j (Fin.lt_def.mpr hij) (Fin.le_def.mpr (Nat.le_of_lt_succ hjk))

theorem verdict_of_startsAt {limits : AssemblyLimits} {fs : List Fragment} {k i : Fin fs.length}
    (h : StartsAt fs k i) (hopen : ¬ Over limits fs i k) :
    verdict limits (fs.take k) fs[k] =
      if limits.maxMessage < size (span fs i (k + 1)) then .oversized (size (span fs i (k + 1)))
      else if fs[k].isFinal then .complete ⟨fs[i].kind, bytes (span fs i (k + 1))⟩
      else .incomplete := by
  have hdrop : (span fs i (k + 1)).dropLast = span fs i k := by
    rw [span_concat h.le, List.dropLast_concat]
  rw [over_iff] at hopen
  simp only [verdict, lastMessage?_of_startsAt h, hdrop]
  rw [if_neg (by simpa using hopen)]

theorem verdict_of_over {limits : AssemblyLimits} {fs : List Fragment} {k i : Fin fs.length}
    (h : StartsAt fs k i) (hover : Over limits fs i k) :
    verdict limits (fs.take k) fs[k] = .skipped := by
  have hlast := lastMessage?_of_startsAt h
  rw [span_concat h.le] at hlast
  exact verdict_of_unwanted (over_iff.mp hover) hlast

theorem verdict_of_orphan {limits : AssemblyLimits} {fs : List Fragment} {k : Fin fs.length}
    (h : ∀ i ≤ k, fs[i].isFirst = false) : verdict limits (fs.take k) fs[k] = .skipped := by
  have hnone : lastMessage? (fs.take k ++ [fs[k]]) = none := by
    refine lastMessage?_eq_none fun f hf => ?_
    have hmem : f ∈ span fs 0 (k + 1) := by simpa [span] using hf
    obtain ⟨j, -, hjk, rfl⟩ := mem_span.mp hmem
    exact h j (Fin.le_def.mpr (Nat.le_of_lt_succ hjk))
  simp only [verdict, hnone]

/-! ### What the answers do not depend on -/

/-- A fragment without the estimate of what follows and without the kind of a continuation. -/
def bare (f : Fragment) : Fragment :=
  { f with kind := if f.isFirst then f.kind else .text, remaining := 0 }

theorem lastMessage?_map_bare (fs : List Fragment) :
    lastMessage? (fs.map bare) = (lastMessage? fs).map fun m => (m.1, m.2.map bare) := by
  induction fs with
  | nil => rfl
  | cons f fs ih =>
    rw [List.map_cons, lastMessage?, ih, lastMessage?]
    cases hf : f.isFirst <;> cases lastMessage? fs <;> simp [bare, hf]

@[simp] theorem bytes_map_bare (fs : List Fragment) : bytes (fs.map bare) = bytes fs := by
  simp [bytes, List.flatMap_map, bare]

@[simp] theorem size_map_bare (fs : List Fragment) : size (fs.map bare) = size fs := by
  simp [size, Function.comp_def, bare]

theorem verdict_bare (limits : AssemblyLimits) (history : List Fragment) (f : Fragment) :
    verdict limits (history.map bare) (bare f) = verdict limits history f := by
  have hmap : history.map bare ++ [bare f] = (history ++ [f]).map bare := by simp
  rw [verdict, verdict, hmap, lastMessage?_map_bare]
  cases lastMessage? (history ++ [f]) with
  | none => rfl
  | some m => simp [← List.map_dropLast, List.any_map, Function.comp_def, bare]

theorem verdicts_map_bare (limits : AssemblyLimits) (history fs : List Fragment) :
    verdicts limits (history.map bare) (fs.map bare) = verdicts limits history fs := by
  induction fs generalizing history with
  | nil => rfl
  | cons f fs ih =>
    have htail := ih (history ++ [f])
    rw [List.map_append, List.map_singleton] at htail
    rw [List.map_cons, verdicts, verdicts, verdict_bare, htail]

theorem verdicts_of_maxMessage {limits limits' : AssemblyLimits}
    (h : limits'.maxMessage = limits.maxMessage) (history fs : List Fragment) :
    verdicts limits' history fs = verdicts limits history fs := by
  induction fs generalizing history with
  | nil => rfl
  | cons f fs ih => simp [verdicts, verdict, h, ih]

/-- The answer to every fragment pushed into a new assembly is the one its history gives, read off by
positions; the growth step, the estimates and the kinds of continuations have no part in it. -/
theorem outcomes_by_history (limits : AssemblyLimits) (fs : List Fragment) :
    (pushAll { limits } fs).1.length = fs.length ∧
      (∀ k : Fin fs.length, (∀ i ≤ k, fs[i].isFirst = false) →
        (pushAll { limits } fs).1[k]? = some .skipped) ∧
      (∀ k i : Fin fs.length, StartsAt fs k i →
        (Over limits fs i k → (pushAll { limits } fs).1[k]? = some .skipped) ∧
        (¬ Over limits fs i k → (pushAll { limits } fs).1[k]? = some (
          if limits.maxMessage < size (span fs i (k + 1)) then
            .oversized (size (span fs i (k + 1)))
          else if fs[k].isFinal then .complete ⟨fs[i].kind, bytes (span fs i (k + 1))⟩
          else .incomplete))) ∧
      ∀ (limits' : AssemblyLimits) (fs' : List Fragment), limits'.maxMessage = limits.maxMessage →
        fs'.map bare = fs.map bare →
          (pushAll { limits := limits' } fs').1 = (pushAll { limits } fs).1 := by
  have hnew (l : AssemblyLimits) (gs : List Fragment) :
      (pushAll { limits := l } gs).1 = verdicts l [] gs := pushAll_eq_verdicts .nothing gs
  have hat (k : Fin fs.length) :
      (verdicts limits [] fs)[k]? = some (verdict limits (fs.take k) fs[k]) := by
    simp [getElem?_verdicts]
  simp only [hnew]
  refine ⟨length_verdicts limits [] fs, ?_, ?_, ?_⟩
  · intro k hk
    rw [hat, verdict_of_orphan hk]
  · intro k i hi
    refine ⟨fun hover => ?_, fun hopen => ?_⟩
    · rw [hat, verdict_of_over hi hover]
    · rw [hat, verdict_of_startsAt hi hopen]
  · intro limits' fs' hmax hbare
    have hleft := verdicts_map_bare limits' [] fs'
    have hright := verdicts_map_bare limits [] fs
    rw [← hleft, ← hright, hbare, verdicts_of_maxMessage hmax]

/-- A message that is cut off by another one, which grows too large before its final fragment. -/
def restarted : List Fragment :=
  [⟨.text, [1], true, false, 3⟩, ⟨.text, [2, 3], true, false, 3⟩, ⟨.binary, [4, 5], false, false, 0⟩,
    ⟨.text, [6], false, true, 0⟩]

theorem outcomes_by_history_restarted :
    (∃ k i : Fin restarted.length, StartsAt restarted k i ∧ ¬ Over ⟨3, 1⟩ restarted i k ∧
      (pushAll { limits := ⟨3, 1⟩ } restarted).1[k]? = some (.oversized 4)) ∧
    ∃ k i : Fin restarted.length, StartsAt restarted k i ∧ Over ⟨3, 1⟩ restarted i k ∧
      (pushAll { limits := ⟨3, 1⟩ } restarted).1[k]? = some .skipped := by
  obtain ⟨-, -, hstarts, -⟩ := outcomes_by_history ⟨3, 1⟩ restarted
  have hgrown : StartsAt restarted ⟨2, by decide⟩ ⟨1, by decide⟩ :=
    ⟨by decide, by decide, by decide⟩
  have hopen : ¬ Over ⟨3, 1⟩ restarted ⟨1, by decide⟩ ⟨2, by decide⟩ := by decide
  have hrest : StartsAt restarted ⟨3, by decide⟩ ⟨1, by decide⟩ := ⟨by decide, by decide, by decide⟩
  have hover : Over ⟨3, 1⟩ restarted ⟨1, by decide⟩ ⟨3, by decide⟩ := by decide
  exact ⟨⟨_, _, hgrown, hopen, (hstarts _ _ hgrown).2 hopen⟩,
    ⟨_, _, hrest, hover, (hstarts _ _ hrest).1 hover⟩⟩

end Assembly

end VoiceBridge
