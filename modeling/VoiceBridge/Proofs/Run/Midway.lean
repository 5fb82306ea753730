import Mathlib.Logic.Function.Basic
import VoiceBridge.Proofs.Connection.Hand
import VoiceBridge.Proofs.Run.Closing

/-!
# Runs part by part

`Bridge.play` makes a turn of a driver one move. Here a driver may pause between the parts of a turn, and
between taking a fragment from the wire and dealing with it; a call, a round of the loop or anything else
may come in between. A call is one stir, whether it comes from elsewhere or from a callback of the driver.
A `Midway` is a bridge with what its drivers have in hand, and `play` makes a list of moves and parts. Where
no driver pauses, it makes the moves that `Bridge.play` makes (`play_moves`).

`Shift` says what a stir makes of the connection of a name and of what is in hand for it (`stir_shift`).
`exists_play_of_kept` carries along a run what every shift keeps, and `exists_shift` goes back from what
holds of a connection to the stir with which it began to hold.
-/

namespace VoiceBridge

/-- A bridge, and what the drivers of its connections have in hand. -/
structure Midway where
  bridge : Bridge
  hands : String → Option Hand := fun _ => none

/-- The least that can happen where drivers pause between the parts of their work. -/
inductive Stir where
  | move (m : Move)
  /-- The driver of the connection of a name does a part of its work, if it can. -/
  | part (id : String) (p : Part)
  deriving Repr, DecidableEq

namespace Midway

/-- A driver that has something in hand sees to nothing else. -/
def busy (w : Midway) : Move → Bool
  | .errand n _ => (w.bridge.roster[n]?).any fun c => (w.hands c.id).isSome
  | .act _ | .loop | .wait _ => false

/-- What is in hand after a move. The shutdown cuts off all drivers. -/
def handsAfter (w : Midway) : Move → String → Option Hand
  | .act .shutdown, _ => none
  | _, id => w.hands id

/-- What a part of the work of a driver makes of the connection of a name and of what is in hand for it. -/
def partOf? (w : Midway) (id : String) (p : Part) : Option (Connection × Option Hand) :=
  if w.bridge.queues.stopped then none
  else (w.bridge.find? id).bind fun c => c.part? w.bridge.context (w.hands id) p

def stir (w : Midway) : Stir → Midway
  | .move m => if w.busy m then w else { bridge := w.bridge.move m, hands := w.handsAfter m }
  | .part id p =>
    match w.partOf? id p with
    | some (c, hand) =>
      { bridge := w.bridge.modify id fun _ => c, hands := Function.update w.hands id hand }
    | none => w

/-- One after the other. -/
def play (w : Midway) (stirs : List Stir) : Midway := stirs.foldl stir w

@[simp] theorem play_nil (w : Midway) : w.play [] = w := rfl

theorem play_cons (w : Midway) (st : Stir) (stirs : List Stir) :
    w.play (st :: stirs) = (w.stir st).play stirs := rfl

theorem play_append (w : Midway) (stirs later : List Stir) :
    w.play (stirs ++ later) = (w.play stirs).play later := List.foldl_append

/-- Drivers that do not pause make the moves that they make in `Bridge.play`. -/
theorem play_moves (b : Bridge) (moves : List Move) :
    (play { bridge := b } (moves.map .move)) = { bridge := b.play moves } := by
  induction moves generalizing b with
  | nil => rfl
  | cons m moves ih =>
    have hfree : busy { bridge := b } m = false := by cases m <;> simp [busy]
    have hnone : handsAfter { bridge := b } m = fun _ => none := by
      funext id
      unfold handsAfter
      split <;> rfl
    rw [List.map_cons, play_cons, stir, hfree, hnone]
    exact ih (b.move m)

theorem partOf?_eq_some {w : Midway} {id : String} {p : Part} {c' : Connection} {hand : Option Hand}
    (h : w.partOf? id p = some (c', hand)) :
    w.bridge.queues.stopped = false ∧ ∃ c, w.bridge.find? id = some c ∧
      c.part? w.bridge.context (w.hands id) p = some (c', hand) := by
  unfold partOf? at h
  split at h
  · cases h
  · rename_i hrunning
    exact ⟨Bool.not_eq_true _ ▸ hrunning, Option.bind_eq_some_iff.mp h⟩

/-! ### What a stir makes of a connection -/

/-- What a stir can make of the connection of a name and of what is in hand for it. -/
inductive Shift (b : Bridge) (c : Connection) (hand : Option Hand) :
    Stir → Connection → Option Hand → Prop
  | moved {m : Move} {c' : Connection} (change : b.Change c m c') (calm : m ≠ .act .shutdown)
      (free : ∀ n e, m = .errand n e → hand = none) : Shift b c hand (.move m) c' hand
  | cut {c' : Connection} (change : b.Change c (.act .shutdown) c') :
      Shift b c hand (.move (.act .shutdown)) c' none
  | shared {p : Part} {c' : Connection} {hand' : Option Hand} (running : b.queues.stopped = false)
      (share : c.Share b.context hand c' hand') : Shift b c hand (.part c.id p) c' hand'
  /-- The stir is the work of a driver and does not concern the connection. -/
  | still {st : Stir} (quiet : ∀ m, st = .move m → ∃ n e, m = .errand n e) : Shift b c hand st c hand

/-- What holds of a bridge and of what is in hand in it. -/
structure Steady (w : Midway) : Prop where
  wired : ∀ c ∈ w.bridge.roster, c.Standing w.bridge.queues.stopped ∧ c.Wired
  grip : ∀ id h, h ∈ w.hands id → ∃ c, w.bridge.find? id = some c ∧ c.Grip h

theorem Steady.init (config : ServiceConfig) : Steady { bridge := { config } } :=
  ⟨fun _ hc => (List.not_mem_nil hc).elim, fun _ _ hh => (by cases hh)⟩

theorem Steady.grip_of_find? {w : Midway} (h : w.Steady) {id : String} {c : Connection}
    (hc : w.bridge.find? id = some c) : ∀ hand ∈ w.hands id, c.Grip hand := by
  intro hand hmem
  obtain ⟨d, hd, hgrip⟩ := h.grip id hand hmem
  rw [hc] at hd
  cases hd
  exact hgrip

/-- Nothing is in hand for a connection that has not been made. -/
theorem Steady.hands_of_find?_none {w : Midway} (h : w.Steady) {id : String}
    (hnone : w.bridge.find? id = none) : w.hands id = none := by
  cases hhand : w.hands id with
  | none => rfl
  | some hand =>
    obtain ⟨c, hc, -⟩ := h.grip id hand hhand
    rw [hnone] at hc
    cases hc

/-- Only the connection whose driver does a part of its work changes. -/
theorem find?_put_share {b : Bridge} {name : String} {c c' : Connection} {hand hand' : Option Hand}
    (hc : b.find? name = some c) (hshare : c.Share b.context hand c' hand') (id : String) :
    (b.modify name fun _ => c').find? id = if id = name then (b.find? id).map fun _ => c' else b.find? id :=
  Bridge.find?_modifyIn (fun _ _ => hshare.id.trans (Bridge.id_of_find? hc)) id b.roster

theorem stir_shift {w : Midway} (hw : w.Steady) {id : String} {c : Connection}
    (hc : w.bridge.find? id = some c) (st : Stir) :
    ∃ c', (w.stir st).bridge.find? id = some c' ∧
      Shift w.bridge c (w.hands id) st c' ((w.stir st).hands id) := by
  have hid := Bridge.id_of_find? hc
  obtain ⟨hstanding, -⟩ := hw.wired c (List.mem_of_find?_eq_some hc)
  cases st with
  | move m =>
    rw [stir]
    split
    · rename_i hbusy
      refine ⟨c, hc, .still fun m' hm => ?_⟩
      cases hm
      cases m with
      | errand n e => exact ⟨n, e, rfl⟩
      | act | loop | wait => cases hbusy
    · rename_i hfree
      obtain ⟨c', hc', hchange⟩ := Bridge.find?_move_of_some (fun d hd => (hw.wired d hd).1) hc m
      refine ⟨c', hc', ?_⟩
      by_cases hcut : m = .act .shutdown
      · subst hcut
        exact .cut hchange
      · have hkept : w.handsAfter m id = w.hands id := by
          unfold handsAfter
          split
          · exact absurd rfl hcut
          · rfl
        change Shift w.bridge c (w.hands id) _ c' (w.handsAfter m id)
        rw [hkept]
        by_cases herrand : ∃ n e, m = .errand n e
        · obtain ⟨n, e, rfl⟩ := herrand
          cases hchange with
          | progress running progress place ready =>
            refine .moved (.progress running progress place ready) hcut fun _ _ _ => ?_
            simpa [busy, place, hid] using hfree
          | spared => exact .still fun _ hm => ⟨n, e, (Stir.move.inj hm).symm⟩
        · exact .moved hchange hcut fun n e hm => absurd ⟨n, e, hm⟩ herrand
  | part name p =>
    rw [stir]
    split
    · rename_i c' hand' hpart
      obtain ⟨hrunning, d, hd, hpart⟩ := partOf?_eq_some hpart
      rw [hrunning] at hstanding
      by_cases hname : name = id
      · subst hname
        rw [hc] at hd
        cases hd
        have hshare := Connection.share_of_part? hstanding hpart
        refine ⟨c', ?_, ?_⟩
        · rw [find?_put_share hc hshare, if_pos rfl, hc]
          rfl
        · simp only [Function.update_self]
          subst hid
          exact .shared hrunning hshare
      · have hstandingd : d.Standing false := by
          rw [← hrunning]
          exact (hw.wired d (List.mem_of_find?_eq_some hd)).1
        refine ⟨c, ?_, ?_⟩
        · rw [find?_put_share hd (Connection.share_of_part? hstandingd hpart), if_neg (Ne.symm hname)]
          exact hc
        · simp only [Function.update_of_ne (Ne.symm hname)]
          exact .still (by simp)
    · exact ⟨c, hc, .still (by simp)⟩

/-- A closing connection takes no text any more. -/
theorem outbox_of_change {b : Bridge} {c c' : Connection} {m : Move}
    (hs : c.state = .disconnecting ∨ c.state = .disconnected) (hchange : b.Change c m c')
    (free : ∀ n e, m ≠ .errand n e) : c'.outbox = c.outbox := by
  cases hchange with
  | @call call held =>
    have hconn : c.state ≠ .connected := by rcases hs with hs | hs <;> simp [hs]
    have htakes : c.takesText = false := by
      rcases hs with hs | hs <;> simp [Connection.takesText, hs, ConnectionState.isTerminal]
    rw [Connection.outbox_perform call fun h => absurd h hconn, Connection.accepted_of_closing htakes,
      List.append_nil]
  | @far call =>
    obtain ⟨_, _, hfar⟩ := c.farCall_eq call
    rw [hfar]
  | takenUp =>
    obtain ⟨_, _, _, heq, _, hcases⟩ := Bridge.takenUp_cases b c
    rw [heq]
    rcases hcases with rfl | ⟨_, hidle, _⟩
    · rfl
    · rcases hs with hs | hs <;> simp [hidle] at hs
  | progress => exact absurd rfl (free _ _)
  | cut | unheld | other | spared => rfl

/-- Nothing but a move of the driver itself and the shutdown puts an end to what is in hand. -/
theorem grip_of_change {b : Bridge} {c c' : Connection} {m : Move} {h : Hand}
    (hstanding : c.Standing b.queues.stopped) (hgrip : c.Grip h) (hchange : b.Change c m c')
    (calm : m ≠ .act .shutdown) (free : ∀ n e, m ≠ .errand n e) : c'.Grip h := by
  have hkept : c'.phase = c.phase → (c.state = .disconnecting → c'.state = .disconnecting) →
      c'.Grip h := fun hp hs => by
    refine ⟨hp ▸ hgrip.live,
      fun found hfound => (hgrip.found found hfound).imp_right fun h => ⟨h.1, hs h.2⟩,
      fun hpassed => ?_, hgrip.queued⟩
    have hfound := hgrip.found .disconnecting (by rw [hpassed]; rfl)
    rw [outbox_of_change (.inl (hfound.resolve_left (by simp)).2) hchange free]
    exact hgrip.passed hpassed
  cases hchange with
  | @call call held =>
    have hframe := Connection.CallFrame.perform c b.queues call
    exact hkept hframe.phase fun hs => hframe.state.elim (fun hsame => hsame.trans hs) fun h => h.2
  | @far call =>
    obtain ⟨_, _, hfar⟩ := c.farCall_eq call
    rw [hfar] at hkept ⊢
    exact hkept rfl fun hs => hs
  | takenUp =>
    obtain ⟨_, _, _, heq, _, hcases⟩ := Bridge.takenUp_cases b c
    rw [heq] at hkept ⊢
    rcases hcases with rfl | ⟨_, hidle, _⟩
    · exact hkept rfl fun hs => hs
    · exact absurd hidle (hstanding.begun_of_isDriven hgrip.isDriven)
  | progress => exact absurd rfl (free _ _)
  | cut => exact absurd rfl calm
  | unheld | other | spared => exact hgrip

theorem Shift.grip {b : Bridge} {c c' : Connection} {hand hand' : Option Hand} {st : Stir}
    (h : Shift b c hand st c' hand') (hstanding : c.Standing b.queues.stopped) (hwired : c.Wired)
    (hgrip : ∀ h ∈ hand, c.Grip h) : ∀ h ∈ hand', c'.Grip h := by
  cases h with
  | moved change calm free =>
    intro h hmem
    refine grip_of_change hstanding (hgrip h hmem) change calm fun n e hm => ?_
    rw [free n e hm] at hmem
    cases hmem
  | cut => exact fun _ hmem => (by cases hmem)
  | shared running share => exact Connection.Grip.share hgrip (running ▸ hstanding) hwired share
  | still => exact hgrip

/-- No stir makes a connection unknown, and only one that makes a connection makes its name known. -/
theorem find?_stir_of_none {w : Midway} (hw : w.Steady) {id : String}
    (hnone : w.bridge.find? id = none) {st : Stir} {c : Connection}
    (hc : (w.stir st).bridge.find? id = some c) :
    ∃ config panicsOn, Connection.create id config panicsOn = .ok c := by
  cases st with
  | move m =>
    rw [stir] at hc
    split at hc
    · rw [hnone] at hc
      cases hc
    · obtain ⟨config, panicsOn, -, hcreate⟩ :=
        Bridge.find?_move_of_none (fun d hd => (hw.wired d hd).1) hnone hc
      exact ⟨config, panicsOn, hcreate⟩
  | part name p =>
    rw [stir] at hc
    split at hc
    · rename_i hpart
      obtain ⟨hrunning, d, hd, hpart⟩ := partOf?_eq_some hpart
      have hstanding : d.Standing false := by
        rw [← hrunning]
        exact (hw.wired d (List.mem_of_find?_eq_some hd)).1
      rw [find?_put_share hd (Connection.share_of_part? hstanding hpart)] at hc
      simp [hnone] at hc
    · rw [hnone] at hc
      cases hc

/-- A driver that sees to nothing because it has something in hand would not touch the queues either. -/
theorem queues_stir_move (w : Midway) (m : Move) :
    (w.stir (.move m)).bridge.queues = (w.bridge.move m).queues := by
  rw [stir]
  split
  · rename_i hbusy
    cases m with
    | errand n e => exact (Bridge.queues_move (by simp) (by simp) (by simp)).symm
    | act | loop | wait => cases hbusy
  · rfl

theorem queues_stir_part (w : Midway) (id : String) (p : Part) :
    (w.stir (.part id p)).bridge.queues = w.bridge.queues := by
  rw [stir]
  split <;> rfl

theorem hands_stir_of_none {w : Midway} (hw : w.Steady) {id : String}
    (hnone : w.bridge.find? id = none) (st : Stir) : (w.stir st).hands id = none := by
  have hfree := hw.hands_of_find?_none hnone
  cases st with
  | move m =>
    rw [stir]
    split
    · exact hfree
    · change w.handsAfter m id = none
      unfold handsAfter
      split
      · rfl
      · exact hfree
  | part name p =>
    rw [stir]
    split
    · rename_i hpart
      obtain ⟨-, d, hd, -⟩ := partOf?_eq_some hpart
      have hname : id ≠ name := by
        rintro rfl
        rw [hnone] at hd
        cases hd
      simpa only [Function.update_of_ne hname] using hfree
    · exact hfree

theorem Steady.stir {w : Midway} (hw : w.Steady) (st : Stir) : (w.stir st).Steady where
  wired := by
    cases st with
    | move m =>
      rw [Midway.stir]
      split
      · exact hw.wired
      · exact Connection.wired_kept.move hw.wired m
    | part name p =>
      rw [Midway.stir]
      split
      · rename_i c' hand' hpart
        obtain ⟨hrunning, c, hc, hpart⟩ := partOf?_eq_some hpart
        refine Bridge.forall_modifyIn hw.wired fun d hd h => ?_
        change d.Standing w.bridge.queues.stopped ∧ d.Wired at h
        have hsame : d = c := Option.some.inj (hd.symm.trans hc)
        subst hsame
        change c'.Standing w.bridge.queues.stopped ∧ c'.Wired
        rw [hrunning] at h ⊢
        have hshare := Connection.share_of_part? h.1 hpart
        have hgrip := hw.grip_of_find? hc
        exact ⟨h.1.share hshare hgrip, h.2.share h.1 hshare hgrip⟩
      · exact hw.wired
  grip id hand hmem := by
    cases hc : w.bridge.find? id with
    | none =>
      rw [hands_stir_of_none hw hc st] at hmem
      cases hmem
    | some c =>
      obtain ⟨hstanding, hwired⟩ := hw.wired c (List.mem_of_find?_eq_some hc)
      obtain ⟨c', hc', hshift⟩ := stir_shift hw hc st
      exact ⟨c', hc', hshift.grip hstanding hwired (hw.grip_of_find? hc) hand hmem⟩

theorem Steady.play {w : Midway} (hw : w.Steady) (stirs : List Stir) : (w.play stirs).Steady := by
  induction stirs generalizing w with
  | nil => exact hw
  | cons st stirs ih => exact ih (hw.stir st)

/-! ### Along a run -/

/-- What every shift keeps of a connection and of what is in hand for it holds from any point on. -/
theorem exists_play_of_kept {id : String} {P : Connection → Option Hand → Prop}
    (hP : ∀ {b : Bridge} {st : Stir} {c c' : Connection} {hand hand' : Option Hand},
      c.Standing b.queues.stopped → c.Wired → (∀ h ∈ hand, c.Grip h) → Shift b c hand st c' hand' →
      P c hand → P c' hand')
    (stirs : List Stir) {w : Midway} (hw : w.Steady) {c : Connection}
    (hc : w.bridge.find? id = some c) (h : P c (w.hands id)) :
    ∃ c', (w.play stirs).bridge.find? id = some c' ∧ P c' ((w.play stirs).hands id) := by
  induction stirs generalizing w c with
  | nil => exact ⟨c, hc, h⟩
  | cons st stirs ih =>
    obtain ⟨hstanding, hwired⟩ := hw.wired c (List.mem_of_find?_eq_some hc)
    obtain ⟨c₁, hc₁, hshift⟩ := stir_shift hw hc st
    exact ih (hw.stir st) hc₁ (hP hstanding hwired (hw.grip_of_find? hc) hshift h)

/-- What holds of a connection and not of a new one began to hold with one of the stirs. -/
theorem exists_shift {config : ServiceConfig} {stirs : List Stir} {id : String} {c : Connection}
    {P : Connection → Prop}
    (hnew : ∀ {config panicsOn d}, Connection.create id config panicsOn = .ok d → ¬P d)
    (hc : (play { bridge := { config } } stirs).bridge.find? id = some c) (h : P c) :
    ∃ before st after d d', stirs = before ++ st :: after ∧
      (play { bridge := { config } } before).bridge.find? id = some d ∧
      ((play { bridge := { config } } before).stir st).bridge.find? id = some d' ∧
      Shift (play { bridge := { config } } before).bridge d
        ((play { bridge := { config } } before).hands id) st d'
        (((play { bridge := { config } } before).stir st).hands id) ∧ ¬P d ∧ P d' := by
  induction stirs using List.reverseRecOn generalizing c with
  | nil => exact (List.not_mem_nil (List.mem_of_find?_eq_some hc)).elim
  | append_singleton stirs st ih =>
    have hw := (Steady.init config).play stirs
    rw [play_append, play_cons, play_nil] at hc
    cases hd : (play { bridge := { config } } stirs).bridge.find? id with
    | none =>
      obtain ⟨_, _, hcreate⟩ := find?_stir_of_none hw hd hc
      exact absurd h (hnew hcreate)
    | some d =>
      by_cases hP : P d
      · obtain ⟨before, st', after, e, e', rfl, hrest⟩ := ih hd hP
        exact ⟨before, st', after ++ [st], e, e', by simp, hrest⟩
      · obtain ⟨c', hc', hshift⟩ := stir_shift hw hd st
        rw [hc] at hc'
        cases hc'
        exact ⟨stirs, st, [], d, c, rfl, hd, hc, hshift, hP, h⟩

end Midway

end VoiceBridge
