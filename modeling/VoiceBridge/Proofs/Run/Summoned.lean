import VoiceBridge.Proofs.Run.Midway

/-!
# Closing drivers are asked for

A closing driver that has not sent its close frame has a permit for a turn or is to be woken by the loop, or
it has something in hand that goes on to another turn or to the close frame: `Summoned` says so of one
connection and `Heedful` of all. Both hold as long as the bridge runs (`heedful_play`), so that a closing
driver with nothing in hand has nothing left to send once the bridge is settled (`leftToSend_of_settled`).
-/

namespace VoiceBridge

/-- What is in hand goes on to another turn or to the close frame, if the connection closes. -/
def Hand.presses : Hand → Bool
  | .found state | .noted state | .passed state => state == .disconnecting
  | .text _ => true
  | .audio _ | .fragment _ => false

namespace Connection

variable {c c' : Connection} {q : Requests} {hand hand' : Option Hand} {ctx : LoopContext}

/-- A closing driver that has not sent its close frame has a permit or is asked for, or goes on to it. -/
def Summoned (c : Connection) (hand : Option Hand) (q : Requests) : Prop :=
  c.state = .disconnecting → c.isDriven = true →
    hand.any Hand.presses = true ∨ c.closeSent = true ∨ c.writable = true ∨ c.id ∈ q.disconnects

/-- A call that closes a connection asks the loop to see to it. -/
theorem queued_of_closing (call : Call) (hs : q.stopped = false)
    (hclosing : (c.perform q call).2.1.state = .disconnecting) :
    c.state = .disconnecting ∨ c.id ∈ (c.perform q call).2.2.disconnects := by
  let P (d : Connection) (p : Requests) : Prop :=
    p.stopped = false ∧ d.id = c.id ∧
      (d.state = .disconnecting → c.state = .disconnecting ∨ c.id ∈ p.disconnects)
  have hkeep : ∀ {d d' : Connection} {p p' : Requests}, P d p → d'.id = d.id → d'.state = d.state →
      Asked d.id p p' → P d' p' := by
    intro d d' p p' h hid hstate hasked
    refine ⟨hasked.stopped.trans h.1, hid.trans h.2.1, fun hclosing => ?_⟩
    exact (h.2.2 (hstate ▸ hclosing)).imp_right (hasked.disconnects _)
  have hkept : KeptByCalls P P :=
    { connect := fun {d p} h => by
        obtain ⟨_, heq⟩ := connect_effect d p
        exact hkeep h (by rw [heq]) (by rw [heq]) (.connect d p)
      close := fun {d p} h => by
        have hasked := Asked.close d p
        have hid := (CallFrame.close d p).id
        refine ⟨hasked.stopped.trans h.1, hid.trans h.2.1, fun hclosing => ?_⟩
        by_cases hconn : d.state = .connected
        · have hclose : d.close p = (.ok (), { d with state := .disconnecting },
              { p with wake := true, disconnects := p.disconnects ++ [d.id] }) := by
            unfold Connection.close
            rw [hconn]
            dsimp only
            rw [beginDisconnect_eq hconn]
            dsimp only
            rw [enqueue_of_running h.1]
          rw [hclose, ← h.2.1]
          exact .inr (List.mem_append_right _ (List.mem_singleton.mpr rfl))
        · have hsame := (CallFrame.close d p).state.resolve_right fun h => hconn h.1
          exact (h.2.2 (hsame ▸ hclosing)).imp_right (hasked.disconnects _)
      subscribe := fun h => h
      finish := fun {d p} h => by
        rcases finish_effect d p with ⟨_, heq⟩ | ⟨_, _, heq⟩ <;>
          exact hkeep h (by rw [heq]) (by rw [heq]) (.finish d p)
      queueText := fun {d p} s h => by
        rcases queueText_effect d s p with ⟨_, heq⟩ | ⟨_, _, heq⟩ <;>
          exact hkeep h (by rw [heq]) (by rw [heq]) (.queueText d s p)
      queueHeld := fun {d p} s h => by
        rcases queueText_effect d s p with ⟨_, heq⟩ | ⟨_, _, heq⟩ <;>
          exact hkeep h (by rw [heq]) (by rw [heq]) (.queueText d s p)
      warn := fun _ h => h
      drop := fun {d p} h => by
        obtain ⟨_, heq⟩ := dropHandle_effect d
        exact hkeep h (by rw [heq]) (by rw [heq]) (.refl _ _)
      hold := fun h => h
      write := fun {d p} chunk h => by
        obtain ⟨_, _, heq⟩ := writeAudio_effect d chunk
        exact hkeep h (by rw [heq]) (by rw [heq]) (.refl _ _)
      commit := fun _ _ h => h
      release := fun {d p} h => by
        obtain ⟨_, heq⟩ := releaseAudio_effect d p
        exact hkeep h (by rw [heq]) (by rw [heq]) (.releaseAudio d p) }
  exact (hkept.perform call ⟨hs, rfl, .inl⟩ : P _ _).2.2 hclosing

/-- What summons a driver is a matter of a few fields. -/
theorem Summoned.keep {q' : Requests} (h : c.Summoned hand q)
    (hs : c'.state = .disconnecting → c.state = .disconnecting) (hdriven : c.isDriven = true)
    (hclose : c.closeSent = true → c'.closeSent = true) (hw : c.writable = true → c'.writable = true)
    (hid : c'.id = c.id) (hq : ∀ other ∈ q.disconnects, other ∈ q'.disconnects)
    (hhand : hand.any Hand.presses = true → hand'.any Hand.presses = true) : c'.Summoned hand' q' :=
  fun hclosing _ => (h (hs hclosing) hdriven).imp hhand (Or.imp hclose (Or.imp hw (hid ▸ hq _)))

theorem closeSent_congr (hp : c'.phase = c.phase) : c'.closeSent = c.closeSent := by
  unfold closeSent
  rw [hp]

theorem isDriven_congr (hp : c'.phase = c.phase) : c'.isDriven = c.isDriven := by
  unfold isDriven
  rw [hp]

theorem Summoned.call (h : c.Summoned hand q) (hs : q.stopped = false) (call : Call) :
    (c.perform q call).2.1.Summoned hand (c.perform q call).2.2 := by
  intro hclosing hdriven
  have hframe := CallFrame.perform c q call
  rw [isDriven_congr hframe.phase] at hdriven
  rw [closeSent_congr hframe.phase, hframe.writable, hframe.id]
  rcases queued_of_closing call hs hclosing with hbefore | hqueued
  · exact (h hbefore hdriven).imp_right
      (Or.imp_right (Or.imp_right ((Asked.perform c q call).disconnects _)))
  · exact .inr (.inr (.inr hqueued))

/-- The loop wakes a closing driver that it is asked to wake. -/
theorem writable_takenUp_of_mem {b : Bridge} (hs : c.state = .disconnecting) (hd : c.isDriven = true)
    (hmem : c.id ∈ b.queues.disconnects) : (b.takenUp c).writable = true := by
  have hconnect : (if c.id ∈ b.queues.connects then b.takeConnect c else c) = c := by
    split
    · exact Bridge.takeConnect_of_not fun h => by simp [hs] at h
    · rfl
  unfold Bridge.takenUp
  dsimp only
  rw [hconnect, if_pos hmem, Bridge.takeDisconnect_eq, Bridge.takeWrite_eq]
  have halive : c.isAlive = true := by rw [isAlive, hd, Bool.or_true]
  split <;> simp [hs, halive]

theorem Summoned.takenUp {b : Bridge} (h : c.Summoned hand b.queues) :
    (b.takenUp c).Summoned hand
      { b.queues with connects := [], disconnects := [], writes := [], wake := false } := by
  intro hclosing hdriven
  have hwritable := b.writable_takenUp c
  have hwoken := c.writable_takenUp_of_mem (b := b)
  obtain ⟨_, _, _, heq, _, hcases⟩ := Bridge.takenUp_cases b c
  rw [heq] at hclosing hdriven hwritable hwoken ⊢
  rcases hcases with rfl | ⟨_, _, rfl⟩
  · rcases h hclosing hdriven with hpresses | hsent | hw | hmem
    · exact .inl hpresses
    · exact .inr (.inl hsent)
    · exact .inr (.inr (.inl (hwritable hw)))
    · exact .inr (.inr (.inl (hwoken hclosing hdriven hmem)))
  · cases hclosing

theorem Summoned.share (h : c.Summoned hand q) (hgrip : ∀ h ∈ hand, c.Grip h)
    (hshare : Share ctx c hand c' hand') : c'.Summoned hand' q := by
  obtain ⟨s, hp⟩ := hshare.exists_live hgrip
  have hdriven : c.isDriven = true := by simp [isDriven, hp]
  cases hshare with
  | @looked s phase =>
    intro hs _
    have hclosing : c.state = .disconnecting := hs
    cases hclose : s.closeSent with
    | true => exact .inr (.inl ((closeSent_of_live phase).trans hclose))
    | false => exact .inl (by simp [hclosing, Hand.presses])
  | discarded phase | pushed _ phase =>
    refine h.keep (fun hs => hs) hdriven (fun hsent => ?_) (fun hw => hw) rfl (fun _ hin => hin)
      fun hpresses => by cases hpresses
    exact (closeSent_of_live phase).symm.trans hsent
  | taken _ state => exact fun hs => absurd (state.symm.trans hs) (by decide)
  | noticed | passed =>
    exact h.keep (fun hs => hs) hdriven (fun hsent => hsent) (fun hw => hw) rfl (fun _ hin => hin)
      fun hpresses => hpresses
  | picked =>
    exact h.keep (fun hs => hs) hdriven (fun hsent => hsent) (fun hw => hw) rfl (fun _ hin => hin)
      fun _ => rfl
  | drained open? | nothing open? =>
    refine h.keep (fun hs => hs) hdriven (fun hsent => hsent) (fun hw => hw) rfl (fun _ hin => hin)
      fun hpresses => absurd ?_ open?
    simpa [Hand.presses] using hpresses
  | sent log phase issue =>
    cases issue with
    | text =>
      intro hs _
      have hclosing : c.state = .disconnecting := hs
      exact .inr (.inr (.inl (by simp [hasMore, hclosing])))
    | audio =>
      exact h.keep (fun hs => hs) hdriven (fun hsent => hsent) (fun hw => hw) rfl (fun _ hin => hin)
        fun hpresses => by cases hpresses
    | close => exact fun _ _ => .inr (.inl rfl)
  | lost log phase issue verdict =>
    exact fun hs => absurd hs (Ending.final_ne_disconnecting verdict)

end Connection

namespace Midway

variable {w : Midway}

/-- No request is left without a wake-up, and no closing driver without a summons. -/
structure Heedful (w : Midway) : Prop where
  heard : w.bridge.queues.Heard
  summoned : ∀ id c, w.bridge.find? id = some c → c.Summoned (w.hands id) w.bridge.queues

theorem summoned_change {m : Move} {b : Bridge} {c c' : Connection} {hand : Option Hand}
    (hc : b.find? c.id = some c) (h : c.Summoned hand b.queues) (hchange : b.Change c m c')
    (free : ∀ n e, m = .errand n e → hand = none) (hrunning : (b.move m).queues.stopped = false) :
    c'.Summoned hand (b.move m).queues := by
  have hbefore := Bridge.running_of_move hrunning
  cases hchange with
  | call held =>
    rw [Bridge.queues_move_held hc held]
    exact h.call hbefore _
  | unheld held =>
    rw [Bridge.queues_move_unheld hc held]
    exact h
  | other ne =>
    exact fun hs hd => (h hs hd).imp_right
      (Or.imp_right (Or.imp_right ((Bridge.asked_move_call b _ _).disconnects _)))
  | @far call =>
    obtain ⟨_, _, hfar⟩ := c.farCall_eq call
    rw [Bridge.queues_move (by simp) (by simp) (by simp), hfar]
    exact h
  | takenUp running wake =>
    rw [Bridge.queues_move_loop running wake]
    exact h.takenUp
  | progress running progress =>
    have hnone := free _ _ rfl
    subst hnone
    rw [Bridge.queues_move (by simp) (by simp) (by simp)]
    intro hs hd
    refine .inr (progress.closing (fun hs hd => ?_) hs hd)
    exact (h hs hd).resolve_left (by simp)
  | cut =>
    rw [Bridge.stopped_move_shutdown] at hrunning
    cases hrunning
  | spared quiet asleep stopped =>
    rw [Bridge.queues_move quiet asleep stopped]
    exact h

theorem Heedful.stir (h : w.Heedful) (hw : w.Steady) (st : Stir)
    (hrunning : (w.stir st).bridge.queues.stopped = false) : (w.stir st).Heedful where
  heard := by
    cases st with
    | move m =>
      rw [queues_stir_move] at hrunning ⊢
      exact Bridge.heard_move h.heard hrunning
    | part id p =>
      rw [queues_stir_part]
      exact h.heard
  summoned id c' hc' := by
    cases hc : w.bridge.find? id with
    | none =>
      obtain ⟨_, _, hcreate⟩ := find?_stir_of_none hw hc hc'
      obtain ⟨_, _, rfl⟩ := Connection.create_eq hcreate
      exact fun hs => by cases hs
    | some c =>
      have hbefore := h.summoned id c hc
      obtain ⟨d, hd, hshift⟩ := stir_shift hw hc st
      rw [hc'] at hd
      cases hd
      have hgrip := hw.grip_of_find? hc
      have hid := Bridge.id_of_find? hc
      subst hid
      generalize hhand : (w.stir st).hands c.id = hand at hshift ⊢
      cases hshift with
      | moved change calm free =>
        rw [queues_stir_move] at hrunning ⊢
        exact summoned_change hc hbefore change free hrunning
      | cut =>
        rw [queues_stir_move, Bridge.stopped_move_shutdown] at hrunning
        cases hrunning
      | shared running share =>
        rw [queues_stir_part]
        exact hbefore.share hgrip share
      | still quiet =>
        cases st with
        | move m =>
          obtain ⟨n, e, rfl⟩ := quiet m rfl
          rw [queues_stir_move, Bridge.queues_move (by simp) (by simp) (by simp)]
          exact hbefore
        | part id p =>
          rw [queues_stir_part]
          exact hbefore

theorem running_of_stir {st : Stir} (h : (w.stir st).bridge.queues.stopped = false) :
    w.bridge.queues.stopped = false := by
  cases st with
  | move m =>
    rw [queues_stir_move] at h
    exact Bridge.running_of_move h
  | part id p =>
    rw [queues_stir_part] at h
    exact h

theorem heedful_play (config : ServiceConfig) (stirs : List Stir)
    (hrunning : (play { bridge := { config } } stirs).bridge.queues.stopped = false) :
    (play { bridge := { config } } stirs).Heedful := by
  induction stirs using List.reverseRecOn with
  | nil =>
    exact ⟨fun hne => by simp at hne,
      fun _ _ hc => (List.not_mem_nil (List.mem_of_find?_eq_some hc)).elim⟩
  | append_singleton stirs st ih =>
    rw [play_append, play_cons, play_nil] at hrunning ⊢
    exact (ih (running_of_stir hrunning)).stir ((Steady.init config).play stirs) st hrunning

/-- In a settled bridge a closing driver that is at work and has nothing in hand has nothing left to send. -/
theorem leftToSend_of_settled {config : ServiceConfig} {stirs : List Stir} {id : String} {c : Connection}
    (h : (play { bridge := { config } } stirs).bridge.Settled)
    (hc : (play { bridge := { config } } stirs).bridge.find? id = some c)
    (hfree : (play { bridge := { config } } stirs).hands id = none)
    (hclosing : c.state = .disconnecting) (hlive : c.isLive = true) : c.leftToSend = [] := by
  have hmem := List.mem_of_find?_eq_some hc
  obtain ⟨hstanding, hwired⟩ := ((Steady.init config).play stirs).wired c hmem
  obtain ⟨s, hp⟩ := Connection.isLive_iff.mp hlive
  have hdriven : c.isDriven = true := by simp [Connection.isDriven, hp]
  have hheedful := heedful_play config stirs (hstanding.running_of_isDriven hdriven)
  have hqueue := (Bridge.queues_eq_nil_of_heard hheedful.heard h.wake).2.1
  rcases hheedful.summoned id c hc hclosing hdriven with hpresses | hsent | hw | hin
  · simp [hfree] at hpresses
  · rw [Connection.closeSent_of_live hp] at hsent
    exact if_pos ((hwired.closeSent s hp).mp hsent)
  · rw [h.writable c hmem hlive] at hw
    cases hw
  · simp [hqueue] at hin

end Midway

end VoiceBridge
