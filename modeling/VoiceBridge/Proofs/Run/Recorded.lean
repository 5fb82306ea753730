import Mathlib.Data.List.Induction
import VoiceBridge.Proofs.Run.Along

/-!
# What a record tells of a connection

An observer sees the moves of a run and writes down what concerns the connection of a name. `Recorded`
lists what is to be shown of one move so that a relation between the connection and what was written
down holds after every run. `exists_play_of_change` does the same from any point of a run on.

`exists_turn` goes back from what holds of a connection to the move with which it began to hold.
-/

namespace VoiceBridge.Bridge

variable {α : Type*}

/-- A relation that holds of a new connection and nothing seen, and that every move keeps together with
what is seen of it. -/
structure Recorded (id : String) (see : Bridge → Move → List α) (P : Connection → List α → Prop) :
    Prop where
  unnamed : ∀ {b : Bridge} {m : Move}, b.find? id = none → see b m = []
  create : ∀ {config : ConnectionConfig} {panicsOn : Option String} {c : Connection},
    Connection.create id config panicsOn = .ok c → P c []
  change : ∀ {b : Bridge} {m : Move} {c c' : Connection} {seen : List α}, b.find? id = some c →
    (b.move m).find? id = some c' → c.Standing b.queues.stopped → c.Wired → Change b c m c' →
    P c seen → P c' (seen ++ see b m)

theorem Recorded.play {id : String} {see : Bridge → Move → List α} {P : Connection → List α → Prop}
    (h : Recorded id see P) (config : ServiceConfig) (moves : List Move) {c : Connection}
    (hc : (Bridge.play { config } moves).find? id = some c) :
    P c (record see { config } moves) :=
  play_from_creation id see (P := fun _ => P) h.unnamed h.create (fun _ => h.change) config moves
    (along_true _ _) hc

/-- What every move keeps holds of a connection from any point on. -/
theorem exists_play_of_change {id : String} (see : Bridge → Move → List α) (seen : List α)
    {P : Connection → List α → Prop}
    (hP : ∀ {b : Bridge} {m : Move} {c c' : Connection} {seen : List α}, b.find? id = some c →
      (b.move m).find? id = some c' → c.Standing b.queues.stopped → c.Wired → Change b c m c' →
      P c seen → P c' (seen ++ see b m))
    (moves : List Move) {b : Bridge} {c : Connection}
    (hb : ∀ c ∈ b.roster, c.Standing b.queues.stopped ∧ c.Wired) (hc : b.find? id = some c)
    (h : P c seen) :
    ∃ c', (b.play moves).find? id = some c' ∧ P c' (seen ++ b.record see moves) :=
  play_kept id see (P := fun _ => P) (fun _ => hP) moves (along_true _ _) hb hc seen h

/-- The same where nothing is written down. -/
theorem exists_play_of_kept {id : String} {P : Connection → Prop}
    (hP : ∀ {b : Bridge} {m : Move} {c c' : Connection}, c.Standing b.queues.stopped → c.Wired →
      Change b c m c' → P c → P c')
    (moves : List Move) {b : Bridge} {c : Connection}
    (hb : ∀ c ∈ b.roster, c.Standing b.queues.stopped ∧ c.Wired) (hc : b.find? id = some c)
    (h : P c) : ∃ c', (b.play moves).find? id = some c' ∧ P c' :=
  exists_play_along (P := fun _ => P) (fun _ _ _ => hP) moves (along_true _ _) hb hc h

/-- What holds of a connection and not of a new one began to hold with one of the moves. -/
theorem exists_turn {config : ServiceConfig} {moves : List Move} {id : String} {c : Connection}
    {P : Connection → Prop}
    (hnew : ∀ {config panicsOn d}, Connection.create id config panicsOn = .ok d → ¬P d)
    (hc : (play { config } moves).find? id = some c) (h : P c) :
    ∃ before m after d d', moves = before ++ m :: after ∧ (play { config } before).find? id = some d ∧
      ((play { config } before).move m).find? id = some d' ∧ Change (play { config } before) d m d' ∧
      ¬P d ∧ P d' := by
  induction moves using List.reverseRecOn generalizing c with
  | nil => exact (List.not_mem_nil (List.mem_of_find?_eq_some hc)).elim
  | append_singleton moves m ih =>
    have hb := Connection.standing_kept.play config moves
    rw [play_append, play_cons, play_nil] at hc
    cases hd : (play { config } moves).find? id with
    | none =>
      obtain ⟨_, _, _, hcreate⟩ := find?_move_of_none hb hd hc
      exact absurd h (hnew hcreate)
    | some d =>
      by_cases hP : P d
      · obtain ⟨before, n, after, e, e', rfl, hrest⟩ := ih hd hP
        exact ⟨before, n, after ++ [m], e, e', by simp, hrest⟩
      · exact ⟨moves, m, [], d, c, rfl, hd, hc, change_of_find? hb hd hc, hP, h⟩

end VoiceBridge.Bridge
