import VoiceBridge.Proofs.Connection.Wiring
import VoiceBridge.Proofs.Run.Named

/-!
# Along a play

The settings of the service stay, the network changes as it is told and only waiting lets time pass.
`play_kept` and `play_from_creation` carry a relation between the connection of a name, the bridge and what
an observer has seen along a play in which each move is allowed; `exists_play_along` and `holds_of_play` do
so without an observer.
-/

namespace VoiceBridge

/-- The network after an action. -/
def Network.told (net : Network) : Action → Network
  | .refuse reason => { net with refusal := some reason }
  | .delay d => { net with delay := some d }
  | .autoPong on => { net with autoPong := on }
  | .echoClose on => { net with echoClose := on }
  | .faults f => { net with faults := f }
  | _ => net

namespace Bridge

/-! ### Settings and time -/

/-- No move changes the settings of the service, the network changes as it is told, and only waiting
lets time pass. -/
theorem settings_move (b : Bridge) (m : Move) :
    (b.move m).config = b.config ∧ (b.move m).now = b.now + m.nanos ∧
      (b.move m).network = m.action?.elim b.network b.network.told := by
  cases m with
  | act action =>
    rw [move_act]
    cases action with
    | create name config panicsOn =>
      rw [act_create]
      cases hcreate : b.create name config panicsOn with
      | error e => exact ⟨rfl, rfl, rfl⟩
      | ok b' =>
        obtain ⟨_, _, rfl, _⟩ := find?_create name hcreate
        exact ⟨rfl, rfl, rfl⟩
    | call name call =>
      rw [act_call]
      cases b.find? name with
      | none => exact ⟨rfl, rfl, rfl⟩
      | some c => cases hheld : c.held <;> simp only [hheld] <;> exact ⟨rfl, rfl, rfl⟩
    | far name call =>
      rw [act_far]
      cases b.find? name with
      | none => exact ⟨rfl, rfl, rfl⟩
      | some c => cases hopen : c.wire.opened <;> simp only [hopen] <;> exact ⟨rfl, rfl, rfl⟩
    | shutdown =>
      change b.shutdown.config = _ ∧ b.shutdown.now = _ ∧ b.shutdown.network = _
      cases hs : b.queues.stopped with
      | true => rw [shutdown_of_stopped hs]; exact ⟨rfl, rfl, rfl⟩
      | false => rw [shutdown_of_not_stopped hs]; exact ⟨rfl, rfl, rfl⟩
    | _ => exact ⟨rfl, rfl, rfl⟩
  | loop =>
    unfold move
    cases hs : b.queues.stopped with
    | true => exact ⟨rfl, rfl, rfl⟩
    | false =>
      cases hw : b.queues.wake with
      | false => simp [loopRound_of_not_wake hw, Move.nanos, Move.action?]
      | true => simp [loopRound_of_wake hw, Move.nanos, Move.action?]
  | errand n e =>
    unfold move
    cases b.queues.stopped <;> exact ⟨rfl, rfl, rfl⟩
  | wait nanos => exact ⟨rfl, rfl, rfl⟩

theorem config_move (b : Bridge) (m : Move) : (b.move m).config = b.config :=
  (settings_move b m).1

theorem now_move (b : Bridge) (m : Move) : (b.move m).now = b.now + m.nanos :=
  (settings_move b m).2.1

theorem network_move (b : Bridge) (m : Move) :
    (b.move m).network = m.action?.elim b.network b.network.told :=
  (settings_move b m).2.2

theorem config_play (b : Bridge) (moves : List Move) : (b.play moves).config = b.config := by
  induction moves generalizing b with
  | nil => rfl
  | cons m moves ih => exact (ih (b.move m)).trans (config_move b m)

/-! ### What a move makes of a connection -/

/-- A move as the driver of the connection sees it. -/
inductive Passage (b : Bridge) (c : Connection) : Move → Connection → Prop
  | driven {m : Move} {c' : Connection} (running : b.queues.stopped = false)
      (still : m.nanos = 0) (progress : c.Progress b.context c') : Passage b c m c'
  /-- The driver begins to open the wire. -/
  | dialled {m : Move} {c' : Connection} (still : m.nanos = 0) (before : c.phase = .absent)
      (phase : c'.phase = .dialling b.now (b.network.delay.map Span.nanos))
      (config : c'.config = c.config) (sent : c'.wire.sent = c.wire.sent)
      (inbound : c'.wire.inbound = c.wire.inbound) : Passage b c m c'
  | left {m : Move} {c' : Connection}
      (phase : c'.phase = c.phase ∨ m = .act .shutdown ∧ c'.phase = .over)
      (config : c'.config = c.config) (sent : c'.wire.sent = c.wire.sent)
      (inbound : c'.wire.inbound = c.wire.inbound ∨ ∃ arrivals,
        m = .act (.far c.id (.send arrivals)) ∧
          c'.wire.inbound = c.wire.inbound ++ arrivals) : Passage b c m c'

theorem Passage.refl (b : Bridge) (c : Connection) (m : Move) : Passage b c m c :=
  .left (.inl rfl) rfl rfl (.inl rfl)

theorem Change.passage {b : Bridge} {c c' : Connection} {m : Move}
    (hstanding : c.Standing b.queues.stopped) (h : Change b c m c') : Passage b c m c' := by
  cases h with
  | @call call =>
    have hframe := Connection.CallFrame.perform c b.queues call
    exact .left (.inl hframe.phase) hframe.config (by rw [hframe.wire]) (.inl (by rw [hframe.wire]))
  | @far call =>
    cases call with
    | send arrivals =>
      refine .left ?_ ?_ ?_ ?_ <;> unfold Connection.farCall <;> dsimp only
      · split <;> exact .inl rfl
      · split <;> rfl
      · split <;> rfl
      · split
        · exact .inr ⟨arrivals, rfl, rfl⟩
        · exact .inl rfl
    | _ => exact .left (.inl rfl) rfl rfl (.inl rfl)
  | takenUp running =>
    rw [running] at hstanding
    obtain ⟨d, _, _, heq, _, hcases⟩ := takenUp_cases b c
    rw [heq]
    rcases hcases with rfl | ⟨_, hidle, rfl⟩
    · exact .left (.inl rfl) rfl rfl (.inl rfl)
    · exact .dialled rfl (hstanding.of_idle hidle).1 rfl rfl rfl rfl
  | progress running progress => exact .driven running rfl progress
  | cut =>
    refine .left ?_ rfl rfl (.inl rfl)
    dsimp only
    split
    · exact .inr ⟨rfl, rfl⟩
    · exact .inl rfl
  | unheld | other | spared => exact .refl b c _

theorem Change.config {b : Bridge} {c c' : Connection} {m : Move}
    (hstanding : c.Standing b.queues.stopped) (h : Change b c m c') : c'.config = c.config := by
  cases h.passage hstanding with
  | driven _ _ progress => exact progress.config
  | dialled _ _ _ config => exact config
  | left _ config => exact config

/-- Time passes a connection by. -/
theorem Change.eq_of_wait {b : Bridge} {c c' : Connection} {nanos : Nat}
    (h : Change b c (.wait nanos) c') : c' = c := by
  cases h
  rfl

theorem wired_move {b : Bridge} (hb : ∀ c ∈ b.roster, c.Standing b.queues.stopped ∧ c.Wired)
    (m : Move) : ∀ c ∈ (b.move m).roster, c.Standing (b.move m).queues.stopped ∧ c.Wired :=
  Connection.wired_kept.move hb m

theorem wired_play (config : ServiceConfig) (moves : List Move) :
    ∀ c ∈ (play { config } moves).roster,
      c.Standing (play { config } moves).queues.stopped ∧ c.Wired :=
  Connection.wired_kept.play config moves

/-! ### From move to move -/

section Along

variable {α : Type*} (id : String) (see : Bridge → Move → List α)
  {P : Bridge → Connection → List α → Prop} {M : Bridge → Move → Prop}

/-- What every move that is allowed keeps of the connection of a name, and of what is seen of it, holds
from any point on. -/
theorem play_kept
    (hP : ∀ {b m c c' seen}, M b m → b.find? id = some c → (b.move m).find? id = some c' →
      c.Standing b.queues.stopped → c.Wired → Change b c m c' → P b c seen →
      P (b.move m) c' (seen ++ see b m))
    (moves : List Move) {b : Bridge} (hM : b.Along M moves)
    (hb : ∀ c ∈ b.roster, c.Standing b.queues.stopped ∧ c.Wired) {c : Connection}
    (hc : b.find? id = some c) (seen : List α) (h : P b c seen) :
    ∃ c', (b.play moves).find? id = some c' ∧
      P (b.play moves) c' (seen ++ b.record see moves) := by
  induction moves generalizing b c seen with
  | nil => exact ⟨c, hc, by rwa [record, List.append_nil]⟩
  | cons m moves ih =>
    obtain ⟨c₁, hc₁, hchange⟩ := find?_move_of_some (fun d hd => (hb d hd).1) hc m
    obtain ⟨hstanding, hwired⟩ := hb c (List.mem_of_find?_eq_some hc)
    have hstep := hP hM.1 hc hc₁ hstanding hwired hchange h
    obtain ⟨c', hc', hrest⟩ := ih hM.2 (wired_move hb m) hc₁ _ hstep
    rw [List.append_assoc] at hrest
    exact ⟨c', hc', hrest⟩

/-- What holds of a new connection of which nothing has been seen, and is kept by every move that is
allowed, holds after every play. -/
theorem play_from_creation
    (hnone : ∀ {b m}, b.find? id = none → see b m = [])
    (hnew : ∀ {b config panicsOn c}, Connection.create id config panicsOn = .ok c → P b c [])
    (hP : ∀ {b m c c' seen}, M b m → b.find? id = some c → (b.move m).find? id = some c' →
      c.Standing b.queues.stopped → c.Wired → Change b c m c' → P b c seen →
      P (b.move m) c' (seen ++ see b m))
    (config : ServiceConfig) (moves : List Move) (hM : ({ config } : Bridge).Along M moves)
    {c : Connection} (hc : (play { config } moves).find? id = some c) :
    P (play { config } moves) c (record see { config } moves) := by
  have hplay : ∀ (moves : List Move) {b : Bridge}, b.Along M moves →
      (∀ c ∈ b.roster, c.Standing b.queues.stopped ∧ c.Wired) → b.find? id = none →
      (b.play moves).find? id = some c → P (b.play moves) c (b.record see moves) := by
    intro moves
    induction moves with
    | nil =>
      intro b _ _ hfind hc
      rw [play, List.foldl_nil, hfind] at hc
      cases hc
    | cons m moves ih =>
      intro b hM hb hfind hc
      have hb' := wired_move hb m
      rw [record, hnone hfind, List.nil_append]
      cases hnext : (b.move m).find? id with
      | none => exact ih hM.2 hb' hnext hc
      | some d =>
        obtain ⟨_, _, _, hcreate⟩ := find?_move_of_none (fun d hd => (hb d hd).1) hfind hnext
        obtain ⟨c', hc', hP'⟩ :=
          play_kept id see hP moves hM.2 hb' hnext [] (hnew (b := b.move m) hcreate)
        rw [play_cons, hc'] at hc
        cases hc
        exact hP'
  exact hplay moves hM (fun _ hc => (List.not_mem_nil hc).elim) rfl hc

end Along

section Unseen

variable {id : String} {P : Bridge → Connection → Prop} {M : Bridge → Move → Prop}
  (hP : ∀ {b m c c'}, M b m → b.find? id = some c → (b.move m).find? id = some c' →
    c.Standing b.queues.stopped → c.Wired → Change b c m c' → P b c → P (b.move m) c')

include hP

/-- The same where nothing is to be seen. -/
theorem exists_play_along (moves : List Move) {b : Bridge} (hM : b.Along M moves)
    (hb : ∀ c ∈ b.roster, c.Standing b.queues.stopped ∧ c.Wired) {c : Connection}
    (hc : b.find? id = some c) (h : P b c) :
    ∃ c', (b.play moves).find? id = some c' ∧ P (b.play moves) c' :=
  play_kept id (fun _ _ => ([] : List Unit)) (P := fun b c _ => P b c) hP moves hM hb hc [] h

theorem holds_of_play
    (hnew : ∀ {b config panicsOn c}, Connection.create id config panicsOn = .ok c → P b c)
    (config : ServiceConfig) (moves : List Move) (hM : ({ config } : Bridge).Along M moves)
    {c : Connection} (hc : (play { config } moves).find? id = some c) :
    P (play { config } moves) c :=
  play_from_creation id (fun _ _ => ([] : List Unit)) (P := fun b c _ => P b c) (fun _ => rfl) hnew hP
    config moves hM hc

end Unseen

/-- A connection keeps its settings. -/
theorem config_eq_of_play {id : String} (moves : List Move) {b : Bridge} {c c' : Connection}
    (hb : ∀ c ∈ b.roster, c.Standing b.queues.stopped ∧ c.Wired) (hc : b.find? id = some c)
    (hc' : (b.play moves).find? id = some c') : c'.config = c.config := by
  obtain ⟨d, hd, hsame⟩ := exists_play_along (P := fun _ d => d.config = c.config)
    (fun _ _ _ hstanding _ hchange h => (hchange.config hstanding).trans h)
    moves (along_true _ _) hb hc rfl
  rw [hc'] at hd
  cases hd
  exact hsame

end Bridge

end VoiceBridge
