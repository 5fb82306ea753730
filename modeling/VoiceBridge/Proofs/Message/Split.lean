import VoiceBridge.Proofs.Message.History

/-!
# Messages in parts

`Fragment.split` cuts a payload into fragments of one message, and an `Assembly` puts them together
again: it gives back the payload with the last of them, or drops the message at the fragment with which
it grows too large. Wherever the assembly stood before, it is idle afterwards (`pushAll_split`).

`Parts` says what makes fragments one message, whatever their payloads and estimates are: only the head
is a first fragment and only the last one is final. The answers to such fragments are read off their
running total.
-/

namespace VoiceBridge

namespace Fragment

/-- The fragments of one message, or, if `first` does not hold, those from some point on. -/
inductive Parts (kind : PayloadKind) : (first : Bool) → List Fragment → Prop
  | last {first : Bool} {f : Fragment} (isFirst : f.isFirst = first) (isFinal : f.isFinal = true)
      (told : first = true → f.kind = kind) : Parts kind first [f]
  | more {first : Bool} {f : Fragment} {rest : List Fragment} (isFirst : f.isFirst = first)
      (isFinal : f.isFinal = false) (told : first = true → f.kind = kind)
      (parts : Parts kind false rest) : Parts kind first (f :: rest)

theorem Parts.of_cut (kind : PayloadKind) (chunk parts : Nat) (first : Bool) (rest : Bytes)
    (h : 0 < parts) : Parts kind first (cut kind chunk parts first rest) := by
  fun_induction cut kind chunk parts first rest with
  | case1 => cases h
  | case2 first rest => exact .last rfl rfl fun _ => rfl
  | case3 parts first rest tail ih => exact .more rfl rfl (fun _ => rfl) (ih (Nat.succ_pos _))

theorem Parts.of_split (kind : PayloadKind) (payload : Bytes) (parts : Nat) :
    Parts kind true (split kind payload parts) :=
  .of_cut _ _ _ _ _ (Nat.lt_of_lt_of_le Nat.zero_lt_one (Nat.le_max_right _ _))

/-- The fragment with another estimate of what follows. -/
def withRemaining (hint : Fragment → Nat) (f : Fragment) : Fragment := { f with remaining := hint f }

theorem Parts.withRemaining {kind : PayloadKind} {first : Bool} {fs : List Fragment}
    (h : Parts kind first fs) (hint : Fragment → Nat) :
    Parts kind first (fs.map (withRemaining hint)) := by
  induction h with
  | last isFirst isFinal told => exact .last isFirst isFinal told
  | more isFirst isFinal told _ ih => exact .more isFirst isFinal told ih

@[simp] theorem bytes_map_withRemaining (hint : Fragment → Nat) (fs : List Fragment) :
    bytes (fs.map (withRemaining hint)) = bytes fs := by
  simp [bytes, List.flatMap_map, withRemaining]

theorem bytes_split (kind : PayloadKind) (payload : Bytes) (parts : Nat) :
    bytes (split kind payload parts) = payload := by
  rw [bytes, List.flatMap_def]
  exact flatten_payload_cut _ _ _ _ _ (Nat.lt_of_lt_of_le Nat.zero_lt_one (Nat.le_max_right _ _))

theorem Parts.any_isFinal {kind : PayloadKind} {first : Bool} {fs : List Fragment}
    (h : Parts kind first fs) : fs.any isFinal = true := by
  induction h with
  | last _ isFinal => simp [isFinal]
  | more _ _ _ _ ih => simp [ih]

/-- A fragment of the kind that `first` says is one more of the message begun. -/
def GoesOn (kind : PayloadKind) (first : Bool) (message : List Fragment) : Prop :=
  ∀ f : Fragment, f.isFirst = first → (first = true → f.kind = kind) →
    lastMessage? (message ++ [f]) = some (kind, message ++ [f])

theorem GoesOn.start (kind : PayloadKind) : GoesOn kind true [] := by
  intro f hf hkind
  rw [lastMessage?_concat, if_pos hf, hkind rfl, List.nil_append]

/-- A message goes on with fragments that begin no other. -/
theorem GoesOn.next {kind : PayloadKind} {first : Bool} {message : List Fragment} {f : Fragment}
    (h : GoesOn kind first message) (hf : f.isFirst = first) (hkind : first = true → f.kind = kind) :
    GoesOn kind false (message ++ [f]) := by
  intro g hg _
  rw [lastMessage?_concat, if_neg (by simp [hg]), h f hf hkind]
  rfl

/-- All fragments of a message belong to it. -/
theorem Parts.lastMessage?_eq {kind : PayloadKind} {first : Bool} {fs : List Fragment}
    (h : Parts kind first fs) {message : List Fragment} (hgoes : GoesOn kind first message) :
    lastMessage? (message ++ fs) = some (kind, message ++ fs) := by
  induction h generalizing message with
  | last isFirst _ told => exact hgoes _ isFirst told
  | @more _ f rest isFirst _ told _ ih =>
    have hrest := ih (hgoes.next isFirst told)
    rwa [List.append_assoc, List.singleton_append] at hrest

end Fragment

namespace Assembly

open Fragment

variable {limits : AssemblyLimits} {kind : PayloadKind} {first : Bool} {message fs : List Fragment}

/-- What becomes of one more fragment of a message that has not ended. -/
theorem verdict_of_goesOn {f : Fragment} (hgoes : GoesOn kind first message)
    (hf : f.isFirst = first) (hkind : first = true → f.kind = kind)
    (hopen : message.any isFinal = false) :
    verdict limits message f =
      if limits.maxMessage < size message then .skipped
      else if limits.maxMessage < size (message ++ [f]) then .oversized (size (message ++ [f]))
      else if f.isFinal then .complete ⟨kind, bytes (message ++ [f])⟩
      else .incomplete := by
  simp only [verdict, hgoes f hf hkind, List.dropLast_concat, hopen, Bool.false_or,
    decide_eq_true_eq]

/-- What follows of a message that is too large is skipped. -/
theorem verdicts_of_dropped (h : Parts kind first fs) (hgoes : GoesOn kind first message)
    (hopen : message.any isFinal = false) (hbig : limits.maxMessage < size message) :
    verdicts limits message fs = List.replicate fs.length .skipped := by
  induction h generalizing message with
  | last isFirst isFinal told =>
    rw [verdicts, verdict_of_goesOn hgoes isFirst told hopen, if_pos hbig]
    rfl
  | @more _ f rest isFirst isFinal told _ ih =>
    have hrest := ih (hgoes.next isFirst told) (by simp [hopen, isFinal])
      (by rw [size_append]; exact Nat.lt_add_right _ hbig)
    rw [verdicts, verdict_of_goesOn hgoes isFirst told hopen, if_pos hbig, hrest]
    rfl

/-- A message that fits is complete with its last fragment. -/
theorem verdicts_of_fits (h : Parts kind first fs) (hgoes : GoesOn kind first message)
    (hopen : message.any isFinal = false) (hfits : size (message ++ fs) ≤ limits.maxMessage) :
    verdicts limits message fs =
      List.replicate (fs.length - 1) .incomplete ++ [.complete ⟨kind, bytes (message ++ fs)⟩] := by
  induction h generalizing message with
  | @last _ f isFirst isFinal told =>
    have hsmall : size message ≤ limits.maxMessage := by
      rw [size_append] at hfits
      exact Nat.le_of_add_right_le hfits
    rw [verdicts, verdict_of_goesOn hgoes isFirst told hopen, if_neg (Nat.not_lt.mpr hsmall),
      if_neg (Nat.not_lt.mpr hfits), if_pos isFinal]
    rfl
  | @more _ f rest isFirst isFinal told parts ih =>
    have hsplit : message ++ f :: rest = message ++ [f] ++ rest := by simp
    rw [hsplit] at hfits ⊢
    have hrest := ih (hgoes.next isFirst told) (by simp [hopen, isFinal]) hfits
    have hnow : size (message ++ [f]) ≤ limits.maxMessage := by
      rw [size_append] at hfits
      exact Nat.le_of_add_right_le hfits
    have hsmall : size message ≤ limits.maxMessage := by
      rw [size_append] at hnow
      exact Nat.le_of_add_right_le hnow
    obtain ⟨n, hn⟩ : ∃ n, rest.length = n + 1 := by cases parts <;> exact ⟨_, rfl⟩
    rw [verdicts, verdict_of_goesOn hgoes isFirst told hopen, if_neg (Nat.not_lt.mpr hsmall),
      if_neg (Nat.not_lt.mpr hnow), if_neg (by simp [isFinal]), hrest, List.length_cons, hn]
    rfl

/-- A message that does not fit is dropped at the fragment with which it grows too large. -/
theorem verdicts_of_overflow (h : Parts kind first fs) (hgoes : GoesOn kind first message)
    (hopen : message.any isFinal = false) (hsmall : size message ≤ limits.maxMessage)
    (hbig : limits.maxMessage < size (message ++ fs)) :
    ∃ before f after, fs = before ++ f :: after ∧ size (message ++ before) ≤ limits.maxMessage ∧
      limits.maxMessage < size (message ++ before ++ [f]) ∧
      verdicts limits message fs = List.replicate before.length .incomplete ++
        .oversized (size (message ++ before ++ [f])) :: List.replicate after.length .skipped := by
  induction h generalizing message with
  | @last _ f isFirst isFinal told =>
    refine ⟨[], f, [], rfl, by simpa using hsmall, by simpa using hbig, ?_⟩
    rw [verdicts, verdict_of_goesOn hgoes isFirst told hopen, if_neg (Nat.not_lt.mpr hsmall),
      if_pos hbig, List.append_nil]
    rfl
  | @more _ f rest isFirst isFinal told parts ih =>
    have hgoes' := hgoes.next isFirst told
    have hopen' : (message ++ [f]).any Fragment.isFinal = false := by simp [hopen, isFinal]
    rw [verdicts, verdict_of_goesOn hgoes isFirst told hopen, if_neg (Nat.not_lt.mpr hsmall)]
    by_cases hnow : limits.maxMessage < size (message ++ [f])
    · refine ⟨[], f, rest, rfl, by simpa using hsmall, by simpa using hnow, ?_⟩
      rw [if_pos hnow, verdicts_of_dropped parts hgoes' hopen' hnow, List.append_nil]
      rfl
    · have hsplit : message ++ f :: rest = message ++ [f] ++ rest := by simp
      rw [hsplit] at hbig
      obtain ⟨before, g, after, rfl, hfits, hover, hrest⟩ :=
        ih hgoes' hopen' (Nat.le_of_not_lt hnow) hbig
      have hassoc : message ++ [f] ++ before = message ++ f :: before := by simp
      rw [hassoc] at hfits hover hrest
      refine ⟨f :: before, g, after, rfl, hfits, hover, ?_⟩
      rw [if_neg hnow, if_neg (by simp [isFinal]), hrest]
      rfl

/-! ### From any state -/

theorem pushAll_append (a : Assembly) (fs gs : List Fragment) :
    a.pushAll (fs ++ gs) =
      ((a.pushAll fs).1 ++ ((a.pushAll fs).2.pushAll gs).1, ((a.pushAll fs).2.pushAll gs).2) := by
  induction fs generalizing a with
  | nil => rfl
  | cons f fs ih => rw [List.cons_append, pushAll, ih, pushAll]; rfl

@[simp] theorem limits_pushAll (a : Assembly) (fs : List Fragment) :
    (a.pushAll fs).2.limits = a.limits := by
  induction fs generalizing a with
  | nil => rfl
  | cons f fs ih => rw [pushAll, ih, limits_push]

theorem stands_pushAll {a : Assembly} {history : List Fragment}
    (h : Stands a.limits (lastMessage? history) a.state) (fs : List Fragment) :
    Stands a.limits (lastMessage? (history ++ fs)) (a.pushAll fs).2.state := by
  induction fs generalizing a history with
  | nil => rwa [List.append_nil]
  | cons f fs ih =>
    have hone : Stands (a.push f).2.limits (lastMessage? (history ++ [f])) (a.push f).2.state := by
      rw [limits_push]
      exact (push_eq_verdict h f).2
    have hrest := ih hone
    rwa [limits_push, List.append_assoc, List.singleton_append] at hrest

/-- A first fragment is taken the same in every state. -/
theorem push_of_isFirst (a : Assembly) {f : Fragment} (hf : f.isFirst = true) :
    a.push f = push { limits := a.limits } f := by
  rw [push, push, if_pos hf, if_pos hf]
  rfl

theorem pushAll_eq_of_parts (a : Assembly) (h : Parts kind true fs) :
    a.pushAll fs = pushAll { limits := a.limits } fs := by
  cases h with
  | last isFirst => simp only [pushAll, push_of_isFirst a isFirst]
  | more isFirst => simp only [pushAll, push_of_isFirst a isFirst]

/-- With its last fragment a message is done with. -/
theorem idle_of_parts (a : Assembly) (h : Parts kind true fs) :
    (a.pushAll fs).2 = { limits := a.limits } := by
  have hmessage : lastMessage? fs = some (kind, fs) := h.lastMessage?_eq (GoesOn.start kind)
  have hnew : Stands a.limits (lastMessage? []) .idle := .nothing
  have hstands : Stands a.limits (lastMessage? fs) (pushAll { limits := a.limits } fs).2.state :=
    stands_pushAll (a := { limits := a.limits }) hnew fs
  have hlimits : (pushAll { limits := a.limits } fs).2.limits = a.limits := limits_pushAll _ fs
  rw [hmessage] at hstands
  rw [pushAll_eq_of_parts a h]
  generalize (pushAll { limits := a.limits } fs).2 = b at hstands hlimits
  obtain ⟨limits, state⟩ := b
  cases hstands with
  | ended => exact congrArg (Assembly.mk · .idle) hlimits
  | dropped hunended => exact absurd h.any_isFinal (by simp [hunended])
  | kept hunended => exact absurd h.any_isFinal (by simp [hunended])

/-- Putting the fragments of a split payload together, in whatever state the assembly was and whatever
the estimates say. A payload that fits comes out of the last fragment as it was. Of one that does not
fit nothing comes out: it is dropped at the first fragment with which the running total passes the
limit. Either way the assembly is idle afterwards, and what is pushed next is taken as by a new one. -/
theorem pushAll_split (a : Assembly) (hint : Fragment → Nat) (kind : PayloadKind) (payload : Bytes)
    (parts : Nat) :
    let fs := (split kind payload parts).map (withRemaining hint)
    (payload.length ≤ a.limits.maxMessage →
      (a.pushAll fs).1 = List.replicate (fs.length - 1) .incomplete ++ [.complete ⟨kind, payload⟩]) ∧
    (a.limits.maxMessage < payload.length →
      ∃ before f after, fs = before ++ f :: after ∧ size before ≤ a.limits.maxMessage ∧
        a.limits.maxMessage < size (before ++ [f]) ∧
        (a.pushAll fs).1 = List.replicate before.length .incomplete ++
          .oversized (size (before ++ [f])) :: List.replicate after.length .skipped) ∧
    (a.pushAll fs).2 = { limits := a.limits } ∧
    ∀ next, (a.pushAll (fs ++ next)).1 =
      (a.pushAll fs).1 ++ (pushAll { limits := a.limits } next).1 := by
  intro fs
  have hparts : Parts kind true fs := (Parts.of_split kind payload parts).withRemaining hint
  have hbytes : bytes fs = payload := by
    rw [bytes_map_withRemaining, bytes_split]
  have hsize : size fs = payload.length := by rw [← length_bytes, hbytes]
  have hidle := idle_of_parts a hparts
  have houtcomes : (a.pushAll fs).1 = verdicts a.limits [] fs := by
    rw [pushAll_eq_of_parts a hparts]
    exact pushAll_eq_verdicts .nothing fs
  rw [← hsize, houtcomes]
  refine ⟨fun hfits => ?_, fun hbig => ?_, hidle, fun next => ?_⟩
  · have hwhole := verdicts_of_fits hparts (GoesOn.start kind) rfl hfits
    rwa [List.nil_append, hbytes] at hwhole
  · exact verdicts_of_overflow hparts (GoesOn.start kind) rfl (Nat.zero_le _) hbig
  · rw [pushAll_append, hidle, houtcomes]

/-- An assembly that has a byte of a text. -/
def midMessage : Assembly := { limits := ⟨4, 2⟩, state := .collecting .text [9] 4 }

/-- Three bytes fit, with the estimates as they are; five do not, with the estimates left out. -/
theorem pushAll_split_midMessage :
    (midMessage.pushAll ((split .binary [1, 2, 3] 2).map (withRemaining (·.remaining)))).1 =
      [.incomplete, .complete ⟨.binary, [1, 2, 3]⟩] ∧
    ∃ before f after, (split .text [1, 2, 3, 4, 5] 3).map (withRemaining fun _ => 0) =
        before ++ f :: after ∧ size before ≤ 4 ∧ 4 < size (before ++ [f]) ∧
      (midMessage.pushAll ((split .text [1, 2, 3, 4, 5] 3).map (withRemaining fun _ => 0))).1 =
        List.replicate before.length .incomplete ++
          .oversized (size (before ++ [f])) :: List.replicate after.length .skipped :=
  ⟨(pushAll_split midMessage (·.remaining) .binary [1, 2, 3] 2).1 (by decide),
    (pushAll_split midMessage (fun _ => 0) .text [1, 2, 3, 4, 5] 3).2.1 (by decide)⟩

end Assembly

end VoiceBridge
