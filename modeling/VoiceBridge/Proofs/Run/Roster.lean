import Mathlib.Data.List.Forall2
import Mathlib.Logic.Function.Iterate
import VoiceBridge.Bridge.Scenario

/-!
# The roster under changes by name

A call, a far end and a request of the event loop mean the first connection of a name.
`find?_modifyIn` says what becomes of the connection of a name, `find?_modifyEach` the same for a batch
of requests, and `exists_of_mem_modifyIn` where the connections of a changed roster come from.
-/

namespace VoiceBridge.Bridge

/-- Only the connection of the name is changed. -/
theorem find?_modifyIn {id : String} {f : Connection → Connection}
    (hf : ∀ c : Connection, c.id = id → (f c).id = id) (other : String) (l : List Connection) :
    (modifyIn id f l).find? (·.id == other) =
      if other = id then (l.find? (·.id == other)).map f else l.find? (·.id == other) := by
  induction l with
  | nil => simp [modifyIn]
  | cons c rest ih =>
    by_cases hc : c.id = id
    · rw [modifyIn, if_pos hc]
      by_cases ho : other = id
      · simp [ho, hc, hf c hc]
      · have h₁ : ¬ id = other := fun h => ho h.symm
        simp [ho, hc, hf c hc, h₁]
    · rw [modifyIn, if_neg hc, List.find?_cons, List.find?_cons]
      cases ho : c.id == other with
      | true =>
        have h₁ : ¬ other = id := fun h => hc ((beq_iff_eq.mp ho).trans h)
        simp [h₁]
      | false => exact ih

/-- To put a connection back in its place changes nothing. -/
theorem modifyIn_of_find? {id : String} {c : Connection} {l : List Connection}
    (h : l.find? (·.id == id) = some c) : modifyIn id (fun _ => c) l = l := by
  induction l with
  | nil => rfl
  | cons d rest ih =>
    unfold modifyIn
    by_cases hd : d.id = id
    · have heq : d = c := by simpa [hd] using h
      rw [if_pos hd, heq]
    · rw [if_neg hd, ih (by simpa [hd] using h)]

/-- A connection of a changed roster was there before or is the changed one. -/
theorem exists_of_mem_modifyIn {id : String} {f : Connection → Connection} {c' : Connection} :
    ∀ {l : List Connection}, c' ∈ modifyIn id f l →
      c' ∈ l ∨ ∃ c ∈ l, l.find? (·.id == id) = some c ∧ c' = f c
  | [], h => by cases h
  | c :: rest, h => by
    by_cases hc : c.id = id
    · rw [modifyIn, if_pos hc] at h
      rcases List.mem_cons.mp h with rfl | h
      · exact .inr ⟨c, List.mem_cons_self, by simp [hc], rfl⟩
      · exact .inl (List.mem_cons_of_mem _ h)
    · rw [modifyIn, if_neg hc] at h
      rcases List.mem_cons.mp h with rfl | h
      · exact .inl List.mem_cons_self
      · rcases exists_of_mem_modifyIn h with h | ⟨d, hd, hfind, rfl⟩
        · exact .inl (List.mem_cons_of_mem _ h)
        · exact .inr ⟨d, List.mem_cons_of_mem _ hd, by simp [hc, hfind], rfl⟩

/-- What `f` keeps of each connection holds throughout a changed roster. -/
theorem forall_modifyIn {P : Connection → Prop} {f : Connection → Connection} {id : String}
    {l : List Connection} (h : ∀ c ∈ l, P c)
    (hf : ∀ c, l.find? (·.id == id) = some c → P c → P (f c)) :
    ∀ c ∈ modifyIn id f l, P c := by
  intro c' hc'
  rcases exists_of_mem_modifyIn hc' with hc' | ⟨c, hc, hfind, rfl⟩
  · exact h c' hc'
  · exact hf c hfind (h c hc)

/-- Change the connections of several names, one after the other. -/
def modifyEach (names : List String) (f : Connection → Connection) (l : List Connection) :
    List Connection :=
  names.foldl (fun l id => modifyIn id f l) l

@[simp] theorem modifyEach_nil (f : Connection → Connection) (l : List Connection) :
    modifyEach [] f l = l := rfl

theorem modifyEach_cons (id : String) (names : List String) (f : Connection → Connection)
    (l : List Connection) :
    modifyEach (id :: names) f l = modifyEach names f (modifyIn id f l) := rfl

/-- The connection of a name is changed as often as the name comes up. -/
theorem find?_modifyEach {f : Connection → Connection} (hf : ∀ c, (f c).id = c.id) (id : String)
    (names : List String) (l : List Connection) :
    (modifyEach names f l).find? (·.id == id) =
      (l.find? (·.id == id)).map f^[names.count id] := by
  induction names generalizing l with
  | nil => simp
  | cons name names ih =>
    rw [modifyEach_cons, ih, find?_modifyIn (fun c h => (hf c).trans h)]
    by_cases h : name = id
    · subst h
      rw [if_pos rfl, List.count_cons_self, Option.map_map]
      rfl
    · rw [if_neg (Ne.symm h), List.count_cons_of_ne h]

theorem forall_modifyEach {P : Connection → Prop} {f : Connection → Connection}
    (hf : ∀ c, P c → P (f c)) (names : List String) {l : List Connection} (h : ∀ c ∈ l, P c) :
    ∀ c ∈ modifyEach names f l, P c := by
  induction names generalizing l with
  | nil => exact h
  | cons name names ih => exact ih (forall_modifyIn h fun c _ => hf c)

/-- A change that is made at most once in effect depends only on whether it is made. -/
theorem iterate_eq_ite {α : Type*} {f : α → α} (h : ∀ x, f (f x) = f x) (n : Nat) (x : α) :
    f^[n] x = if n = 0 then x else f x := by
  induction n with
  | zero => rfl
  | succ n ih =>
    rw [Function.iterate_succ_apply', ih, if_neg (Nat.succ_ne_zero n)]
    split
    · rfl
    · exact h x

/-- The connection of a name after a batch of requests, each of which counts once. -/
theorem find?_modifyEach_of_idem {f : Connection → Connection} (hf : ∀ c, (f c).id = c.id)
    (hidem : ∀ c, f (f c) = f c) (id : String) (names : List String) (l : List Connection) :
    (modifyEach names f l).find? (·.id == id) =
      (l.find? (·.id == id)).map fun c => if id ∈ names then f c else c := by
  rw [find?_modifyEach hf]
  congr 1
  funext c
  rw [iterate_eq_ite hidem]
  by_cases h : id ∈ names
  · rw [if_neg (by simpa [List.count_eq_zero] using h), if_pos h]
  · rw [if_pos (List.count_eq_zero.mpr h), if_neg h]

/-! ### Two rosters side by side -/

section Beside

variable {R : Connection → Connection → Prop} {l l' : List Connection}

theorem exists_of_mem_forall₂ {α : Type*} {R : α → α → Prop} {l l' : List α}
    (h : List.Forall₂ R l l') {y : α} (hy : y ∈ l') : ∃ x ∈ l, R x y := by
  induction h with
  | nil => cases hy
  | cons hfirst _ ih =>
    rcases List.mem_cons.mp hy with rfl | hy
    · exact ⟨_, List.mem_cons_self, hfirst⟩
    · obtain ⟨x, hx, hrel⟩ := ih hy
      exact ⟨x, List.mem_cons_of_mem _ hx, hrel⟩

/-- The connections of a name are related, if the roster has one. -/
theorem rel_find? (hid : ∀ {c c'}, R c c' → c'.id = c.id) (h : List.Forall₂ R l l') (id : String) :
    l.find? (·.id == id) = none ∧ l'.find? (·.id == id) = none ∨
      ∃ c c', l.find? (·.id == id) = some c ∧ l'.find? (·.id == id) = some c' ∧ R c c' := by
  induction h with
  | nil => exact .inl ⟨rfl, rfl⟩
  | @cons c c' _ _ hfirst _ ih =>
    rw [List.find?_cons, List.find?_cons, hid hfirst]
    cases c.id == id with
    | true => exact .inr ⟨c, c', rfl, rfl, hfirst⟩
    | false => exact ih

/-- The connection of a name is changed on both sides. -/
theorem rel_modifyIn {f f' : Connection → Connection} {id : String}
    (hid : ∀ {c c'}, R c c' → c'.id = c.id) (hf : ∀ {c c'}, R c c' → R (f c) (f' c'))
    (h : List.Forall₂ R l l') : List.Forall₂ R (modifyIn id f l) (modifyIn id f' l') := by
  induction h with
  | nil => exact .nil
  | cons hfirst hrest ih =>
    unfold modifyIn
    rw [hid hfirst]
    split
    · exact .cons (hf hfirst) hrest
    · exact .cons hfirst ih

theorem rel_modifyEach {f f' : Connection → Connection} (hid : ∀ {c c'}, R c c' → c'.id = c.id)
    (hf : ∀ {c c'}, R c c' → R (f c) (f' c')) (names : List String) (h : List.Forall₂ R l l') :
    List.Forall₂ R (modifyEach names f l) (modifyEach names f' l') := by
  induction names generalizing l l' with
  | nil => exact h
  | cons name names ih => exact ih (rel_modifyIn hid hf h)

/-- The connection in one place is changed on both sides. -/
theorem rel_modify {f f' : Connection → Connection} (hf : ∀ {c c'}, R c c' → R (f c) (f' c')) (n : Nat)
    (h : List.Forall₂ R l l') : List.Forall₂ R (l.modify n f) (l'.modify n f') := by
  induction h generalizing n with
  | nil => simp
  | cons hfirst hrest ih =>
    cases n with
    | zero => exact .cons (hf hfirst) hrest
    | succ n => exact .cons hfirst (ih n)

/-- The connection of a name is changed on one side only. -/
theorem rel_modifyIn_self {f : Connection → Connection} {id : String} (hsame : ∀ c ∈ l, R c c)
    (hf : ∀ c, l.find? (·.id == id) = some c → R c (f c)) : List.Forall₂ R l (modifyIn id f l) := by
  induction l with
  | nil => exact .nil
  | cons c rest ih =>
    have hrest := fun d hd => hsame d (List.mem_cons_of_mem _ hd)
    unfold modifyIn
    by_cases hc : c.id = id
    · rw [if_pos hc]
      exact .cons (hf c (by simp [hc])) (List.forall₂_same.mpr hrest)
    · rw [if_neg hc]
      refine .cons (hsame c List.mem_cons_self) (ih hrest fun d hd => hf d ?_)
      simpa [hc] using hd

end Beside

end VoiceBridge.Bridge
