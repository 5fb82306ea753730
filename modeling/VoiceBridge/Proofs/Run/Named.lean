import VoiceBridge.Proofs.Run.Settle

/-!
# The connection of a name

`Change b c m c'` lists what a move makes of the connection of a name, and `find?_move_of_some` says
that every move is one of these. A later connection of a name already given can never be reached: it
stays as it was made (`Apart.move`).
-/

namespace VoiceBridge

theorem Connection.id_of_create {id : String} {config : ConnectionConfig} {panicsOn : Option String}
    {c : Connection} (h : Connection.create id config panicsOn = .ok c) : c.id = id := by
  obtain ⟨_, _, rfl⟩ := Connection.create_eq h
  rfl

namespace Bridge

/-- What a move can make of the connection of a name. -/
inductive Change (b : Bridge) (c : Connection) : Move → Connection → Prop
  | call {call : Call} (held : c.held = true) :
      Change b c (.act (.call c.id call)) (c.perform b.queues call).2.1
  /-- Who has let go of the handle cannot call. -/
  | unheld {call : Call} (held : c.held = false) : Change b c (.act (.call c.id call)) c
  | other {id : String} {call : Call} (ne : id ≠ c.id) : Change b c (.act (.call id call)) c
  | far {call : FarCall} : Change b c (.act (.far c.id call)) (c.farCall call).2
  | takenUp (running : b.queues.stopped = false) (wake : b.queues.wake = true) :
      Change b c .loop (b.takenUp c)
  | progress {n : Nat} {e : Errand} {c' : Connection} (running : b.queues.stopped = false)
      (progress : c.Progress b.context c') (place : b.roster[n]? = some c)
      (ready : c.seeTo? b.context e = some c') : Change b c (.errand n e) c'
  | cut {waits : List Wait} (running : b.queues.stopped = false) :
      Change b c (.act .shutdown) { c with waits, phase := if c.isDriven then .over else c.phase }
  /-- The move does not concern the connection. -/
  | spared {m : Move} (quiet : ∀ id call, m ≠ .act (.call id call))
      (asleep : m = .loop → b.queues.stopped = false → b.queues.wake = false)
      (stopped : m = .act .shutdown → b.queues.stopped = true) : Change b c m c

theorem id_of_find? {b : Bridge} {id : String} {c : Connection} (h : b.find? id = some c) :
    c.id = id :=
  beq_iff_eq.mp (List.find?_some (p := fun c : Connection => c.id == id) h)

theorem find?_put {b : Bridge} {id : String} {c' : Connection} {q : Requests} (hid : c'.id = id)
    (other : String) :
    (b.put id c' q).find? other =
      if other = id then (b.find? other).map fun _ => c' else b.find? other :=
  find?_modifyIn (fun _ _ => hid) other b.roster

/-- To put back the connection of a name as it was changes nothing. -/
theorem put_self {b : Bridge} {id : String} {c : Connection} (hc : b.find? id = some c) :
    b.put id c b.queues = b := by
  unfold put modify
  rw [modifyIn_of_find? hc]

/-- The connection of a name after one connection, by its place, has been changed. -/
theorem find?_modify {f : Connection → Connection} (id : String) :
    ∀ {l : List Connection}, (∀ c ∈ l, (f c).id = c.id) → ∀ n,
      (l.modify n f).find? (·.id == id) = l.find? (·.id == id) ∨
        ∃ c, l[n]? = some c ∧ l.find? (·.id == id) = some c ∧
          (l.modify n f).find? (·.id == id) = some (f c)
  | [], _, n => by simp
  | c :: rest, hf, n => by
    cases n with
    | zero =>
      have hname := hf c List.mem_cons_self
      cases hc : c.id == id with
      | true => right; simp [List.modify_zero_cons, hname, hc]
      | false => left; simp [List.modify_zero_cons, hname, hc]
    | succ n =>
      rw [List.modify_succ_cons]
      cases hc : c.id == id with
      | true => left; simp [hc]
      | false => simpa [hc] using find?_modify id (fun d hd => hf d (List.mem_cons_of_mem _ hd)) n

theorem id_takeConnect (b : Bridge) (c : Connection) : (b.takeConnect c).id = c.id := by
  by_cases hc : c.isAlive = true ∧ c.state = .idle
  · rw [takeConnect_of_idle hc.1 hc.2]
    rfl
  · rw [takeConnect_of_not hc]

theorem id_takeDisconnect (c : Connection) : (takeDisconnect c).id = c.id := by
  rw [takeDisconnect_eq]

theorem id_takeWrite (c : Connection) : (takeWrite c).id = c.id := by
  rw [takeWrite_eq]

theorem takeConnect_takeConnect (b : Bridge) (c : Connection) :
    b.takeConnect (b.takeConnect c) = b.takeConnect c := by
  by_cases hc : c.isAlive = true ∧ c.state = .idle
  · rw [takeConnect_of_idle hc.1 hc.2]
    exact takeConnect_of_not fun h => by cases h.2
  · rw [takeConnect_of_not hc, takeConnect_of_not hc]

theorem takeDisconnect_takeDisconnect (c : Connection) :
    takeDisconnect (takeDisconnect c) = takeDisconnect c := by
  by_cases hc : (c.isAlive && c.state == .disconnecting) = true
  · have htake : takeDisconnect c = { c with writable := true } := by rw [takeDisconnect, if_pos hc]
    have hagain : ({ c with writable := true }.isAlive && c.state == .disconnecting) = true := hc
    rw [htake, takeDisconnect, if_pos hagain]
  · have htake : takeDisconnect c = c := by rw [takeDisconnect, if_neg hc]
    rw [htake, htake]

theorem takeWrite_takeWrite (c : Connection) : takeWrite (takeWrite c) = takeWrite c := by
  by_cases hc : c.isAlive = true
  · have htake : takeWrite c =
        { c with writeQueued := false, writable := c.writable || c.isConnected } := by
      rw [takeWrite, if_pos hc]
    have hagain : { c with writeQueued := false, writable := c.writable || c.isConnected }.isAlive =
        true := hc
    rw [htake, takeWrite, if_pos hagain]
    simp [Connection.isConnected]
  · have htake : takeWrite c = c := by rw [takeWrite, if_neg hc]
    rw [htake, htake]

/-- A round of the loop does to the connection of a name what its requests ask for. -/
theorem find?_loopRound {b : Bridge} (h : b.queues.wake = true) (id : String) :
    b.loopRound.find? id = (b.find? id).map b.takenUp := by
  rw [loopRound_of_wake h]
  unfold find?
  dsimp only
  rw [find?_modifyEach_of_idem id_takeWrite takeWrite_takeWrite,
    find?_modifyEach_of_idem id_takeDisconnect takeDisconnect_takeDisconnect,
    find?_modifyEach_of_idem (id_takeConnect b) (takeConnect_takeConnect b)]
  cases hc : b.roster.find? (·.id == id) with
  | none => rfl
  | some c =>
    have hid : c.id = id := id_of_find? hc
    have hid₁ : (if id ∈ b.queues.connects then b.takeConnect c else c).id = id := by
      split
      · exact (id_takeConnect b c).trans hid
      · exact hid
    simp only [Option.map_some, Option.some.injEq]
    unfold takenUp
    rw [hid]
    dsimp only
    rw [hid₁]
    generalize (if id ∈ b.queues.connects then b.takeConnect c else c) = d at hid₁ ⊢
    have hid₂ : (if id ∈ b.queues.disconnects then takeDisconnect d else d).id = id := by
      split
      · exact (id_takeDisconnect d).trans hid₁
      · exact hid₁
    rw [hid₂]

theorem abandonWaits_abandonWaits (c : Connection) :
    c.abandonWaits.abandonWaits = c.abandonWaits := by
  unfold Connection.abandonWaits
  simp only [List.map_map]
  congr 2
  funext w
  by_cases h : w = .pending <;> simp [h]

/-- Let go of those who wait for a connection that somebody still has. -/
def letGo (c : Connection) : Connection := if c.isAlive then c.abandonWaits else c

theorem id_letGo (c : Connection) : (letGo c).id = c.id := by
  unfold letGo
  split <;> rfl

theorem letGo_letGo (c : Connection) : letGo (letGo c) = letGo c := by
  unfold letGo
  cases ha : c.isAlive with
  | true =>
    have hagain : c.abandonWaits.isAlive = true := ha
    simp only [if_true, hagain, abandonWaits_abandonWaits]
  | false => simp [ha]

theorem isDriven_letGo (c : Connection) : (letGo c).isDriven = c.isDriven := by
  unfold letGo
  split <;> rfl

theorem driverGone_letGo (c : Connection) : (letGo c).driverGone = c.driverGone := by
  unfold letGo
  split
  · rw [Connection.driverGone, abandonWaits_abandonWaits]
    rfl
  · rfl

/-- The shutdown takes the driver of the connection of a name and lets go of all who wait for it; where
there is no driver, it does so if the request to connect was still queued. -/
theorem find?_shutdown_eq {b : Bridge} (h : b.queues.stopped = false) (id : String) :
    b.shutdown.find? id = (b.find? id).map fun c =>
      if c.isDriven then c.driverGone else if id ∈ b.queues.connects then letGo c else c := by
  have hfind : (modifyEach b.queues.connects (fun c => if c.isAlive then c.abandonWaits else c)
      b.roster).find? (·.id == id) =
        (b.find? id).map fun c => if id ∈ b.queues.connects then letGo c else c :=
    find?_modifyEach_of_idem id_letGo letGo_letGo id _ _
  have hname : ((fun c : Connection => c.id == id) ∘ fun c : Connection =>
      if c.isDriven then c.driverGone else c) = fun c => c.id == id := by
    funext c
    dsimp only [Function.comp]
    split <;> rfl
  rw [shutdown_of_not_stopped h]
  unfold find? at hfind ⊢
  rw [List.find?_map, hname, hfind, Option.map_map]
  congr 1
  funext c
  rw [Function.comp]
  by_cases hin : id ∈ b.queues.connects
  · simp only [hin, if_true, isDriven_letGo, driverGone_letGo]
  · simp only [hin, if_false]

/-- The driver of the connection of a name is gone with the shutdown. -/
theorem find?_shutdown {b : Bridge} (h : b.queues.stopped = false) (id : String) :
    ∃ waits : Connection → List Wait, b.shutdown.find? id = (b.find? id).map fun c =>
      { c with waits := waits c, phase := if c.isDriven then .over else c.phase } := by
  refine ⟨fun c => (if c.isDriven then c.driverGone
    else if id ∈ b.queues.connects then letGo c else c).waits, ?_⟩
  rw [find?_shutdown_eq h]
  congr 1
  funext c
  dsimp only
  cases hd : c.isDriven with
  | true => rfl
  | false =>
    by_cases hin : id ∈ b.queues.connects
    · unfold letGo
      cases c.isAlive <;> simp [hin, Connection.abandonWaits]
    · simp [hin]

theorem id_farCall (c : Connection) (call : FarCall) : (c.farCall call).2.id = c.id := by
  obtain ⟨_, _, h⟩ := c.farCall_eq call
  rw [h]

/-- A call changes the connection of its name, as long as the handle is held. -/
theorem find?_call (b : Bridge) (name id : String) (call : Call) :
    (b.move (.act (.call name call))).find? id = (b.find? id).map fun c =>
      if name = id ∧ c.held then (c.perform b.queues call).2.1 else c := by
  rw [move_act, act_call]
  by_cases hname : name = id
  · subst hname
    cases hc : b.find? name with
    | none => simp [hc]
    | some c =>
      have hid := (Connection.CallFrame.perform c b.queues call).id.trans (id_of_find? hc)
      cases hheld : c.held <;> simp [hheld, find?_put hid, hc]
  · have hne : ¬ id = name := fun h => hname h.symm
    cases hc : b.find? name with
    | none => simp [hname]
    | some c =>
      have hid := (Connection.CallFrame.perform c b.queues call).id.trans (id_of_find? hc)
      cases hheld : c.held <;> simp [hheld, find?_put hid, hname, hne]

theorem find?_call_held {b : Bridge} {id : String} {c : Connection} (h : b.find? id = some c)
    (hheld : c.held = true) (call : Call) :
    (b.move (.act (.call id call))).find? id = some (c.perform b.queues call).2.1 := by
  rw [find?_call, h, Option.map_some, if_pos ⟨rfl, hheld⟩]

theorem find?_far (b : Bridge) (name id : String) (call : FarCall) :
    (b.move (.act (.far name call))).find? id = (b.find? id).map fun c =>
      if name = id ∧ c.wire.opened then (c.farCall call).2 else c := by
  rw [move_act, act_far]
  by_cases hname : name = id
  · subst hname
    cases hc : b.find? name with
    | none => simp [hc]
    | some c =>
      have hid := (id_farCall c call).trans (id_of_find? hc)
      cases hopen : c.wire.opened <;> simp [hopen, find?_put hid, hc]
  · have hne : ¬ id = name := fun h => hname h.symm
    cases hc : b.find? name with
    | none => simp [hname]
    | some c =>
      have hid := (id_farCall c call).trans (id_of_find? hc)
      cases hopen : c.wire.opened <;> simp [hopen, find?_put hid, hname, hne]

theorem find?_create {b b' : Bridge} {name : String} {config : ConnectionConfig}
    {panicsOn : Option String} (id : String) (h : b.create name config panicsOn = .ok b') :
    ∃ d, Connection.create name config panicsOn = .ok d ∧
      b' = { b with roster := b.roster ++ [d] } ∧
      b'.find? id = (b.find? id).or (if d.id = id then some d else none) := by
  unfold create at h
  split at h
  · cases h
  · cases hd : Connection.create name config panicsOn with
    | error e => simp [hd] at h
    | ok d =>
      rw [hd] at h
      cases h
      refine ⟨d, rfl, rfl, ?_⟩
      unfold find?
      rw [List.find?_append]
      congr 1
      by_cases hid : d.id = id <;> simp [hid]

theorem id_seeTo? {stopped : Bool} {ctx : LoopContext} {c : Connection} (h : c.Standing stopped)
    (e : Errand) : ((c.seeTo? ctx e).getD c).id = c.id := by
  cases hsee : c.seeTo? ctx e with
  | none => rfl
  | some c' => exact (Connection.progress_of_seeTo? h hsee).id

theorem find?_seeToOne {b : Bridge} (hb : ∀ c ∈ b.roster, c.Standing false) (id : String) (n : Nat)
    (e : Errand) :
    (b.seeToOne n e).find? id = b.find? id ∨
      ∃ c c', b.find? id = some c ∧ (b.seeToOne n e).find? id = some c' ∧
        c.Progress b.context c' ∧ b.roster[n]? = some c ∧ c.seeTo? b.context e = some c' := by
  rcases find?_modify id (fun c hc => id_seeTo? (hb c hc) e) n with hfind | ⟨c, hplace, hc, hfind⟩
  · exact .inl hfind
  · cases hsee : c.seeTo? b.context e with
    | none =>
      rw [hsee, Option.getD_none] at hfind
      exact .inl (hfind.trans hc.symm)
    | some c' =>
      rw [hsee, Option.getD_some] at hfind
      have hstanding := hb c (List.mem_of_find?_eq_some hc)
      exact .inr ⟨c, c', hc, hfind, Connection.progress_of_seeTo? hstanding hsee, hplace, hsee⟩

/-- What a move makes of the connection of a name. -/
theorem find?_move_of_some {b : Bridge} (hb : ∀ c ∈ b.roster, c.Standing b.queues.stopped)
    {id : String} {c : Connection} (h : b.find? id = some c) (m : Move) :
    ∃ c', (b.move m).find? id = some c' ∧ Change b c m c' := by
  have hid := id_of_find? h
  have hspared : ∀ {m : Move}, (∀ id call, m ≠ .act (.call id call)) → m ≠ .loop →
      m ≠ .act .shutdown → Change b c m c :=
    fun hq hl hs => .spared hq (fun h => absurd h hl) fun h => absurd h hs
  cases m with
  | act action =>
    cases action with
    | create name config panicsOn =>
      refine ⟨c, ?_, hspared (by simp) (by simp) (by simp)⟩
      rw [move_act, act_create]
      cases hcreate : b.create name config panicsOn with
      | error e => exact h
      | ok b' =>
        obtain ⟨d, _, _, hfind⟩ := find?_create id hcreate
        exact hfind.trans (by rw [h, Option.some_or])
    | call name call =>
      have hfind := find?_call b name id call
      rw [h, Option.map_some] at hfind
      by_cases hname : name = c.id
      · have hn : name = id := hname.trans hid
        subst hname
        cases hheld : c.held with
        | true => exact ⟨_, by simpa [hn, hheld] using hfind, .call hheld⟩
        | false => exact ⟨c, by simpa [hheld] using hfind, .unheld hheld⟩
      · have hn : ¬ name = id := fun hn => hname (hn.trans hid.symm)
        exact ⟨c, by simpa [hn] using hfind, .other hname⟩
    | far name call =>
      have hfind := find?_far b name id call
      rw [h, Option.map_some] at hfind
      by_cases hname : name = c.id ∧ c.wire.opened = true
      · have hn : name = id := hname.1.trans hid
        obtain ⟨rfl, hopen⟩ := hname
        exact ⟨_, by simpa [hn, hopen] using hfind, .far⟩
      · have hn : ¬(name = id ∧ c.wire.opened = true) :=
          fun hn => hname ⟨hn.1.trans hid.symm, hn.2⟩
        rw [if_neg hn] at hfind
        exact ⟨c, hfind, hspared (by simp) (by simp) (by simp)⟩
    | shutdown =>
      change ∃ c', b.shutdown.find? id = some c' ∧ _
      cases hs : b.queues.stopped with
      | true =>
        rw [shutdown_of_stopped hs]
        exact ⟨c, h, .spared (by simp) (by simp) fun _ => hs⟩
      | false =>
        obtain ⟨waits, hfind⟩ := find?_shutdown hs id
        rw [h, Option.map_some] at hfind
        exact ⟨_, hfind, .cut hs⟩
    | refuse => exact ⟨c, h, hspared (by simp) (by simp) (by simp)⟩
    | delay => exact ⟨c, h, hspared (by simp) (by simp) (by simp)⟩
    | autoPong => exact ⟨c, h, hspared (by simp) (by simp) (by simp)⟩
    | echoClose => exact ⟨c, h, hspared (by simp) (by simp) (by simp)⟩
    | faults => exact ⟨c, h, hspared (by simp) (by simp) (by simp)⟩
    | openedCount => exact ⟨c, h, hspared (by simp) (by simp) (by simp)⟩
    | settings => exact ⟨c, h, hspared (by simp) (by simp) (by simp)⟩
  | loop =>
    unfold move
    cases hs : b.queues.stopped with
    | true => exact ⟨c, by simpa using h, .spared (by simp) (by simp [hs]) (by simp)⟩
    | false =>
      cases hw : b.queues.wake with
      | false =>
        refine ⟨c, ?_, .spared (by simp) (fun _ _ => hw) (by simp)⟩
        simpa [loopRound_of_not_wake hw] using h
      | true =>
        refine ⟨b.takenUp c, ?_, .takenUp hs hw⟩
        simp [find?_loopRound hw, h]
  | errand n e =>
    cases hs : b.queues.stopped with
    | true =>
      rw [move_errand_of_stopped hs]
      exact ⟨c, h, hspared (by simp) (by simp) (by simp)⟩
    | false =>
      rw [hs] at hb
      rw [move_errand_of_running hs]
      rcases find?_seeToOne hb id n e with hfind | ⟨d, d', hd, hfind, hprogress, hplace, hsee⟩
      · exact ⟨c, hfind.trans h, hspared (by simp) (by simp) (by simp)⟩
      · rw [h] at hd
        cases hd
        exact ⟨d', hfind, .progress hs hprogress hplace hsee⟩
  | wait nanos => exact ⟨c, h, hspared (by simp) (by simp) (by simp)⟩

theorem change_of_find? {b : Bridge} (hb : ∀ c ∈ b.roster, c.Standing b.queues.stopped) {id : String}
    {c c' : Connection} {m : Move} (hc : b.find? id = some c) (hc' : (b.move m).find? id = some c') :
    Change b c m c' := by
  obtain ⟨d, hd, hchange⟩ := find?_move_of_some hb hc m
  rw [hc'] at hd
  cases hd
  exact hchange

/-- A name is given by a creation only. -/
theorem find?_move_of_none {b : Bridge} (hb : ∀ c ∈ b.roster, c.Standing b.queues.stopped)
    {id : String} (h : b.find? id = none) {m : Move} {c : Connection}
    (hc : (b.move m).find? id = some c) :
    ∃ config panicsOn, m = .act (.create id config panicsOn) ∧
      Connection.create id config panicsOn = .ok c := by
  have hsame : ∀ {b' : Bridge}, b'.find? id = some c → b'.roster ≠ b.roster := by
    intro b' hc hroster
    unfold find? at h hc
    rw [hroster, h] at hc
    cases hc
  cases m with
  | act action =>
    cases action with
    | create name config panicsOn =>
      rw [move_act, act_create] at hc
      cases hcreate : b.create name config panicsOn with
      | error e =>
        rw [hcreate] at hc
        simp [h] at hc
      | ok b' =>
        obtain ⟨d, hd, _, hfind⟩ := find?_create id hcreate
        rw [hcreate] at hc
        dsimp only at hc
        rw [hfind, h, Option.none_or] at hc
        split at hc
        · rename_i hid
          cases hc
          have hname : c.id = name := Connection.id_of_create hd
          rw [← hid, hname]
          exact ⟨config, panicsOn, rfl, hd⟩
        · cases hc
    | call name call => simp [find?_call, h] at hc
    | far name call => simp [find?_far, h] at hc
    | shutdown =>
      change b.shutdown.find? id = some c at hc
      cases hs : b.queues.stopped with
      | true => simp [shutdown_of_stopped hs, h] at hc
      | false =>
        obtain ⟨waits, hfind⟩ := find?_shutdown hs id
        simp [hfind, h] at hc
    | refuse => exact absurd rfl (hsame hc)
    | delay => exact absurd rfl (hsame hc)
    | autoPong => exact absurd rfl (hsame hc)
    | echoClose => exact absurd rfl (hsame hc)
    | faults => exact absurd rfl (hsame hc)
    | openedCount => exact absurd rfl (hsame hc)
    | settings => exact absurd rfl (hsame hc)
  | loop =>
    unfold move at hc
    cases hs : b.queues.stopped with
    | true => simp [hs, h] at hc
    | false =>
      cases hw : b.queues.wake with
      | false => simp [hs, loopRound_of_not_wake hw, h] at hc
      | true => simp [hs, find?_loopRound hw, h] at hc
  | errand n e =>
    cases hs : b.queues.stopped with
    | true => simp [move_errand_of_stopped hs, h] at hc
    | false =>
      rw [hs] at hb
      rw [move_errand_of_running hs] at hc
      rcases find?_seeToOne hb id n e with hfind | ⟨d, d', hd, _⟩
      · simp [hfind, h] at hc
      · simp [h] at hd
  | wait nanos => exact absurd rfl (hsame hc)

/-! ### The queues -/

/-- A call leaves its requests in the name of its connection. -/
theorem asked_move_call (b : Bridge) (id : String) (call : Call) :
    Asked id b.queues (b.move (.act (.call id call))).queues := by
  rw [move_act, act_call]
  cases hc : b.find? id with
  | none => exact .refl id _
  | some c =>
    have hasked := Asked.perform c b.queues call
    rw [id_of_find? hc] at hasked
    cases hheld : c.held with
    | true => simpa [hheld, put] using hasked
    | false => simpa [hheld] using Asked.refl id b.queues

theorem queues_move_held {b : Bridge} {c : Connection} (h : b.find? c.id = some c)
    (hheld : c.held = true) (call : Call) :
    (b.move (.act (.call c.id call))).queues = (c.perform b.queues call).2.2 := by
  rw [move_act, act_call, h]
  dsimp only
  rw [if_pos hheld]
  rfl

theorem queues_move_unheld {b : Bridge} {c : Connection} (h : b.find? c.id = some c)
    (hheld : c.held = false) (call : Call) :
    (b.move (.act (.call c.id call))).queues = b.queues := by
  rw [move_act, act_call, h]
  dsimp only
  rw [if_neg (by simp [hheld])]

/-- Nothing but calls, rounds of the loop and the shutdown touches the queues. -/
theorem queues_move {b : Bridge} {m : Move} (hcall : ∀ id call, m ≠ .act (.call id call))
    (hloop : m = .loop → b.queues.stopped = false → b.queues.wake = false)
    (hshutdown : m = .act .shutdown → b.queues.stopped = true) :
    (b.move m).queues = b.queues := by
  cases m with
  | act action =>
    rw [move_act]
    cases action with
    | create name config panicsOn =>
      rw [act_create]
      cases hcreate : b.create name config panicsOn with
      | error e => rfl
      | ok b' =>
        obtain ⟨d, _, rfl, _⟩ := find?_create name hcreate
        rfl
    | call name call => exact absurd rfl (hcall name call)
    | far name call =>
      rw [act_far]
      split
      · split <;> rfl
      · rfl
    | shutdown =>
      change b.shutdown.queues = b.queues
      rw [shutdown_of_stopped (hshutdown rfl)]
    | _ => rfl
  | loop =>
    unfold move
    cases hs : b.queues.stopped with
    | true => rfl
    | false => simp [loopRound_of_not_wake (hloop rfl hs)]
  | errand n e =>
    unfold move
    cases b.queues.stopped <;> rfl
  | wait nanos => rfl

theorem queues_move_loop {b : Bridge} (hs : b.queues.stopped = false) (hw : b.queues.wake = true) :
    (b.move .loop).queues =
      { b.queues with connects := [], disconnects := [], writes := [], wake := false } := by
  have hmove : b.move .loop = b.loopRound := by simp [move, hs]
  rw [hmove, loopRound_of_wake hw]

theorem stopped_move_shutdown (b : Bridge) :
    (b.move (.act .shutdown)).queues.stopped = true := by
  change b.shutdown.queues.stopped = true
  cases hs : b.queues.stopped with
  | true => rw [shutdown_of_stopped hs]; exact hs
  | false => rw [shutdown_of_not_stopped hs]; rfl

/-- What every move does to the queues of a bridge that goes on running. -/
theorem queues_cases (b : Bridge) (m : Move) :
    (∃ id call, m = .act (.call id call)) ∨
      (m = .loop ∧ b.queues.stopped = false ∧ b.queues.wake = true) ∨
      (m = .act .shutdown ∧ b.queues.stopped = false) ∨ (b.move m).queues = b.queues := by
  by_cases hcall : ∃ id call, m = .act (.call id call)
  · exact .inl hcall
  · by_cases hloop : m = .loop ∧ b.queues.stopped = false ∧ b.queues.wake = true
    · exact .inr (.inl hloop)
    · by_cases hshutdown : m = .act .shutdown ∧ b.queues.stopped = false
      · exact .inr (.inr (.inl hshutdown))
      · refine .inr (.inr (.inr (queues_move (fun id call h => hcall ⟨id, call, h⟩) ?_ ?_)))
        · intro hm hs
          cases hw : b.queues.wake with
          | false => rfl
          | true => exact absurd ⟨hm, hs, hw⟩ hloop
        · intro hm
          cases hs : b.queues.stopped with
          | true => rfl
          | false => exact absurd ⟨hm, hs⟩ hshutdown

/-- Once stopped, the bridge stays stopped. -/
theorem stopped_move {b : Bridge} (h : b.queues.stopped = true) (m : Move) :
    (b.move m).queues.stopped = true := by
  rcases queues_cases b m with ⟨id, call, rfl⟩ | ⟨_, hs, _⟩ | ⟨_, hs⟩ | hq
  · rw [(asked_move_call b id call).stopped]
    exact h
  · rw [h] at hs
    cases hs
  · rw [h] at hs
    cases hs
  · rw [hq]
    exact h

theorem running_of_move {b : Bridge} {m : Move} (h : (b.move m).queues.stopped = false) :
    b.queues.stopped = false := by
  cases hs : b.queues.stopped with
  | true => rw [stopped_move hs m] at h; cases h
  | false => rfl

theorem running_of_play {b : Bridge} {moves : List Move} (h : (b.play moves).queues.stopped = false) :
    b.queues.stopped = false := by
  induction moves generalizing b with
  | nil => exact h
  | cons m moves ih => exact running_of_move (ih h)

theorem stopped_play {b : Bridge} (h : b.queues.stopped = true) (moves : List Move) :
    (b.play moves).queues.stopped = true := by
  induction moves generalizing b with
  | nil => exact h
  | cons m moves ih => exact ih (stopped_move h m)

/-! ### Names given twice -/

/-- A connection as it was made. -/
structure Unreached (c : Connection) : Prop where
  phase : c.phase = .absent
  state : c.state = .idle
  connectRequested : c.connectRequested = false
  writeQueued : c.writeQueued = false

/-- Of the connections of one name, all but the first are as they were made. -/
def Apart (roster : List Connection) : Prop :=
  roster.Pairwise fun d c => d.id = c.id → Unreached c

theorem Unreached.of_create {id : String} {config : ConnectionConfig} {panicsOn : Option String}
    {c : Connection} (h : Connection.create id config panicsOn = .ok c) : Unreached c := by
  obtain ⟨_, _, rfl⟩ := Connection.create_eq h
  exact ⟨rfl, rfl, rfl, rfl⟩

theorem Apart.modifyIn {id : String} {f : Connection → Connection}
    (hf : ∀ c : Connection, c.id = id → (f c).id = id) {l : List Connection} (h : Apart l) :
    Apart (modifyIn id f l) := by
  induction l with
  | nil => exact .nil
  | cons c rest ih =>
    obtain ⟨hc, hrest⟩ := List.pairwise_cons.mp h
    by_cases hid : c.id = id
    · rw [Bridge.modifyIn, if_pos hid]
      refine List.pairwise_cons.mpr ⟨fun d hd heq => ?_, hrest⟩
      exact hc d hd (hid.trans ((hf c hid).symm.trans heq))
    · rw [Bridge.modifyIn, if_neg hid]
      refine List.pairwise_cons.mpr ⟨fun d hd heq => ?_, ih hrest⟩
      rcases exists_of_mem_modifyIn hd with hd | ⟨e, _, hfind, rfl⟩
      · exact hc d hd heq
      · have hname : e.id = id :=
          beq_iff_eq.mp (List.find?_some (p := fun c : Connection => c.id == id) hfind)
        exact absurd (heq.trans (hf e hname)) hid

theorem Apart.modifyEach {f : Connection → Connection} (hf : ∀ c, (f c).id = c.id)
    (names : List String) {l : List Connection} (h : Apart l) : Apart (modifyEach names f l) := by
  induction names generalizing l with
  | nil => exact h
  | cons name names ih => exact ih (h.modifyIn fun c hc => (hf c).trans hc)

theorem Apart.map {f : Connection → Connection} (hf : ∀ c, (f c).id = c.id)
    (hkept : ∀ c, Unreached c → Unreached (f c)) {l : List Connection} (h : Apart l) :
    Apart (l.map f) :=
  List.Pairwise.map f (fun c d hcd heq => hkept d (hcd ((hf c).symm.trans (heq.trans (hf d))))) h

theorem Apart.modify {f : Connection → Connection} {l : List Connection}
    (hf : ∀ c ∈ l, (f c).id = c.id) (hkept : ∀ c ∈ l, Unreached c → Unreached (f c)) (h : Apart l)
    (n : Nat) :
    Apart (l.modify n f) := by
  refine List.pairwise_iff_getElem.mpr fun i j hi hj hij heq => ?_
  rw [List.length_modify] at hi hj
  have hname : ∀ k (hk : k < l.length),
      ((l.modify n f).get ⟨k, by simpa using hk⟩).id = l[k].id := by
    intro k hk
    rw [List.get_eq_getElem, List.getElem_modify]
    split
    · exact hf _ (List.getElem_mem hk)
    · rfl
  have hpair := List.pairwise_iff_getElem.mp h i j hi hj hij
    ((hname i hi).symm.trans (heq.trans (hname j hj)))
  rw [List.getElem_modify]
  split
  · exact hkept _ (List.getElem_mem hj) hpair
  · exact hpair

/-- A move leaves a second connection of a name as it was made. -/
theorem Apart.move {b : Bridge} (hb : ∀ c ∈ b.roster, c.Standing b.queues.stopped)
    (h : Apart b.roster) (m : Move) : Apart (b.move m).roster := by
  have hput : ∀ {id c' q}, c'.id = id → Apart (b.put id c' q).roster :=
    fun hid => h.modifyIn fun _ _ => hid
  cases m with
  | act action =>
    rw [move_act]
    cases action with
    | create name config panicsOn =>
      rw [act_create]
      cases hcreate : b.create name config panicsOn with
      | error e => exact h
      | ok b' =>
        obtain ⟨d, hd, rfl, _⟩ := find?_create name hcreate
        exact List.pairwise_append.mpr ⟨h, List.pairwise_singleton _ _, fun c _ d' hd' _ => by
          rw [List.mem_singleton.mp hd']
          exact .of_create hd⟩
    | call name call =>
      rw [act_call]
      cases hc : b.find? name with
      | none => exact h
      | some c =>
        have hid := (Connection.CallFrame.perform c b.queues call).id.trans (id_of_find? hc)
        cases hheld : c.held with
        | true => simpa [hheld] using hput hid
        | false => simpa [hheld] using h
    | far name call =>
      rw [act_far]
      cases hc : b.find? name with
      | none => exact h
      | some c =>
        have hid := (id_farCall c call).trans (id_of_find? hc)
        cases hopen : c.wire.opened with
        | true => simpa [hopen] using hput hid
        | false => simpa [hopen] using h
    | shutdown =>
      change Apart b.shutdown.roster
      cases hs : b.queues.stopped with
      | true => rw [shutdown_of_stopped hs]; exact h
      | false =>
        rw [shutdown_of_not_stopped hs]
        refine .map (fun c => by split <;> rfl) (fun c hc => ?_)
          (h.modifyEach (fun c => by split <;> rfl) _)
        rw [if_neg (by simp [Connection.isDriven, hc.phase])]
        exact hc
    | _ => exact h
  | loop =>
    unfold Bridge.move
    cases hs : b.queues.stopped with
    | true => simpa using h
    | false =>
      cases hw : b.queues.wake with
      | false => simpa [loopRound_of_not_wake hw] using h
      | true =>
        rw [loopRound_of_wake hw]
        exact ((h.modifyEach (id_takeConnect b) _).modifyEach id_takeDisconnect _).modifyEach
          id_takeWrite _
  | errand n e =>
    cases hs : b.queues.stopped with
    | true => simpa [move_errand_of_stopped hs] using h
    | false =>
      rw [move_errand_of_running hs]
      refine h.modify (fun c hc => id_seeTo? (hb c hc) e) (fun c _ hun => ?_) n
      have hsee : c.seeTo? b.context e = none := by simp [Connection.seeTo?, hun.phase]
      rw [hsee]
      exact hun
  | wait nanos => exact h

/-- Every connection is the one of its name or as it was made. -/
theorem Apart.find? {b : Bridge} (h : Apart b.roster) {c : Connection} (hc : c ∈ b.roster) :
    b.find? c.id = some c ∨ Unreached c := by
  unfold Bridge.find?
  unfold Apart at h
  generalize b.roster = l at h hc
  induction l with
  | nil => cases hc
  | cons d rest ih =>
    obtain ⟨hfirst, hpair⟩ := List.pairwise_cons.mp h
    rcases List.mem_cons.mp hc with rfl | hrest
    · exact .inl (by simp)
    · by_cases hid : d.id = c.id
      · exact .inr (hfirst c hrest hid)
      · rw [List.find?_cons, show (d.id == c.id) = false by simpa using hid]
        exact ih hpair hrest

theorem Apart.play (config : ServiceConfig) (moves : List Move) :
    Apart (Bridge.play { config } moves).roster := by
  have hplay : ∀ (moves : List Move) {b : Bridge}, (∀ c ∈ b.roster, c.Standing b.queues.stopped) →
      Apart b.roster → Apart (b.play moves).roster := by
    intro moves
    induction moves with
    | nil => exact fun _ h => h
    | cons m moves ih =>
      exact fun hb h => ih (Connection.standing_kept.move hb m) (h.move hb m)
  exact hplay moves (fun _ hc => (List.not_mem_nil hc).elim) .nil

end Bridge

end VoiceBridge
