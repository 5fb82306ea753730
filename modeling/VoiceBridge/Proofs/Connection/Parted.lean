import VoiceBridge.Proofs.Connection.Veiled
import VoiceBridge.Proofs.Run.Along
import VoiceBridge.Proofs.Run.Completion

/-!
# A connection that has lost its handle

`Parted` relates a connection whose request to connect has been taken up to the same one without its handle.
Whatever happens to both keeps them so: what far ends do, the steps of the driver in whatever order, a round
of the loop and the shutdown.

Where a driver is at work it has the connection, and the loop takes up all requests in both. Where the
driver is gone nobody has the second one any more, so that its requests are not taken up; but without a
driver they only decide whether its name counts as queued for a turn and whether a turn is allowed that
nobody takes. Nor does anybody wait for the end of a connection that has ended (`Candid.told`), so that with
the handle nobody is let go of.
-/

namespace VoiceBridge

namespace Connection

variable {ctx : LoopContext} {c c' : Connection} {q q' : Requests} {id : String} {stopped : Bool}

/-! ### What those who wait have been told -/

/-- Whoever waits has been told the outcome once there is one, unless they were let go of; and an idle
connection has no open wire. -/
structure Candid (c : Connection) : Prop where
  waits : ∀ w ∈ c.waits, w = .abandoned ∨ w = (c.outcome.map Wait.resolved).getD .pending
  unopened : c.state = .idle → c.wire.opened = false

theorem Candid.frame (h : c.Candid) (hf : CallFrame c q c' q') (hwaits : c'.waits = c.waits) :
    c'.Candid where
  waits := by
    rw [hwaits, hf.outcome]
    exact h.waits
  unopened hs := by
    rw [hf.wire]
    rcases hf.state with hsame | ⟨_, hclosing⟩
    · exact h.unopened (hsame ▸ hs)
    · rw [hclosing] at hs
      cases hs

theorem Candid.abandon (h : c.Candid) : c.abandonWaits.Candid where
  waits w hw := by
    obtain ⟨v, hv, rfl⟩ := List.mem_map.mp hw
    split
    · exact .inl rfl
    · exact h.waits v hv
  unopened := h.unopened

theorem candid_kept_by_calls : KeptByCalls (fun c _ => c.Candid) (fun c _ => c.Candid) where
  connect {c q} h := by
    obtain ⟨_, heq⟩ := connect_effect c q
    exact h.frame (.connect c q) (by rw [heq])
  close {c q} h := by
    obtain ⟨_, _, heq⟩ := close_effect c q
    exact h.frame (.close c q) (by rw [heq])
  subscribe {c _} h := by
    refine ⟨fun w hw => ?_, h.unopened⟩
    rw [waits_subscribed] at hw
    rcases List.mem_append.mp hw with hw | hw
    · exact h.waits w hw
    · exact .inr (List.mem_singleton.mp hw)
  finish {c q} h := by
    rcases finish_effect c q with ⟨_, heq⟩ | ⟨_, _, heq⟩ <;>
      exact h.frame (.finish c q) (by rw [heq])
  queueText {c q} s h := by
    rcases queueText_effect c s q with ⟨_, heq⟩ | ⟨_, _, heq⟩ <;>
      exact h.frame (.queueText c s q) (by rw [heq])
  queueHeld {c q} s h := by
    rcases queueText_effect c s q with ⟨_, heq⟩ | ⟨_, _, heq⟩ <;>
      exact h.frame (.queueText c s q) (by rw [heq])
  warn _ h := ⟨h.waits, h.unopened⟩
  drop {c _} h := by
    have hunheld : c.unheld.Candid := ⟨h.waits, h.unopened⟩
    rw [dropHandle_eq]
    split
    · exact hunheld
    · exact hunheld.abandon
  hold h := h
  write {c q} chunk h := by
    obtain ⟨_, _, heq⟩ := writeAudio_effect c chunk
    exact h.frame (.writeAudio c chunk q) (by rw [heq])
  commit _ _ h := ⟨h.waits, h.unopened⟩
  release {c q} h := by
    obtain ⟨_, heq⟩ := releaseAudio_effect c q
    exact h.frame (.releaseAudio c q) (by rw [heq])

theorem Candid.progress (h : c.Candid) (hstanding : c.Standing false) (hp : Progress ctx c c') :
    c'.Candid where
  waits w hw := by
    rcases hp.waits with ⟨hsame, houtcome, -⟩ | ⟨o, hresolved, houtcome⟩ | rfl
    · rw [houtcome]
      exact h.waits w (hsame ▸ hw)
    · rw [hresolved] at hw
      obtain ⟨v, hv, rfl⟩ := List.mem_map.mp hw
      have hv' := h.waits v hv
      rw [hstanding.outcome_of_isDriven hp.isDriven] at hv'
      rw [houtcome]
      rcases hv' with rfl | rfl
      · exact .inl rfl
      · exact .inr rfl
    · exact h.abandon.waits w hw
  unopened hs := absurd hs (hp.begun hstanding)

/-- While the service runs, nobody waits any more for a connection that has ended, unless its driver was cut
off. -/
theorem Candid.told (h : c.Candid) (hstanding : c.Standing false) (hbegun : c.state ≠ .idle)
    (hd : c.isDriven = false) (hwhole : ¬c.CutOff) : .pending ∉ c.waits := by
  intro hpending
  obtain ⟨o, ho⟩ : ∃ o, c.outcome = some o := by
    unfold isDriven at hd
    cases hstanding with
    | cutLive phase _ outcome => exact absurd ⟨phase, outcome⟩ hwhole
    | _ => simp_all
  rcases h.waits _ hpending with hw | hw
  · cases hw
  · rw [ho] at hw
    cases hw

theorem candid_kept : Bridge.KeptByMoves fun stopped c => c.Standing stopped ∧ c.Candid where
  create h := by
    refine ⟨.of_create h, ?_⟩
    obtain ⟨_, _, rfl⟩ := create_eq h
    exact ⟨fun w hw => (List.not_mem_nil hw).elim, fun _ => rfl⟩
  call {_ q} call h := ⟨standing_kept.call call h.1, candid_kept_by_calls.perform call (q := q) h.2⟩
  far {_ c} call h := by
    refine ⟨standing_kept.far call h.1, ?_⟩
    obtain ⟨_, _, hfar⟩ := c.farCall_eq call
    rw [hfar]
    exact ⟨h.2.waits, h.2.unopened⟩
  takeConnect {c} b h := by
    refine ⟨standing_kept.takeConnect b h.1, ?_⟩
    by_cases hc : c.isAlive = true ∧ c.state = .idle
    · rw [Bridge.takeConnect_of_idle hc.1 hc.2]
      exact ⟨h.2.waits, fun hs => by cases hs⟩
    · rw [Bridge.takeConnect_of_not hc]
      exact h.2
  takeDisconnect {c} h := by
    refine ⟨standing_kept.takeDisconnect h.1, ?_⟩
    rw [Bridge.takeDisconnect_eq]
    exact ⟨h.2.waits, h.2.unopened⟩
  takeWrite {c} h := by
    refine ⟨standing_kept.takeWrite h.1, ?_⟩
    rw [Bridge.takeWrite_eq]
    exact ⟨h.2.waits, h.2.unopened⟩
  seeTo hsee h :=
    ⟨standing_kept.seeTo hsee h.1, h.2.progress h.1 (progress_of_seeTo? h.1 hsee)⟩
  abandon h := ⟨standing_kept.abandon h.1, h.2.abandon⟩
  shutdown {c} h := by
    refine ⟨standing_kept.shutdown h.1, ?_⟩
    split
    · exact ⟨h.2.abandon.waits, h.2.unopened⟩
    · exact h.2

/-- Once all who waited have been told something, nobody waits. -/
theorem pending_not_mem_map {told : Wait} (h : told ≠ .pending) (waits : List Wait) :
    .pending ∉ waits.map fun w => if w = .pending then told else w := by
  intro hmem
  obtain ⟨w, _, hw⟩ := List.mem_map.mp hmem
  split at hw
  · exact h hw
  · contradiction

/-- If a driver is gone behind a step, nobody waits. -/
theorem Progress.told (h : Progress ctx c c') : c'.isDriven = true ∨ .pending ∉ c'.waits := by
  rcases h.waits with ⟨-, -, hdriven⟩ | ⟨o, hresolved, -⟩ | rfl
  · exact .inl hdriven
  · rw [hresolved]
    exact .inr (pending_not_mem_map (by simp) c.waits)
  · exact .inr (pending_not_mem_map (by simp) c.waits)

/-! ### A connection and the same one without its handle -/

/-- The connection without its handle, with other permits. -/
def loose (writable writeQueued : Bool) (c : Connection) : Connection :=
  { c with held := false, writable, writeQueued }

/-- The connection of the name, and the same one whose handle has been dropped behind the pick-up of its
request to connect. -/
inductive Parted (id : String) (c : Connection) : Connection → Prop
  | same : Parted id c c
  | driven (name : c.id = id) (driven : c.isDriven = true) : Parted id c c.unheld
  /-- Nobody waits any more, and a request for a turn is not taken up where nobody has the connection. -/
  | undriven {writable writeQueued : Bool} (name : c.id = id) (begun : c.state ≠ .idle)
      (undriven : c.isDriven = false) (told : .pending ∉ c.waits) :
      Parted id c (c.loose writable writeQueued)

/-- What callbacks, far ends and those who wait see of two connections is the same. -/
structure SeenAlike (c c' : Connection) : Prop where
  id : c'.id = c.id
  state : c'.state = c.state
  delivered : c'.delivered = c.delivered
  wire : c'.wire = c.wire
  waits : c'.waits = c.waits

theorem Parted.seenAlike (h : Parted id c c') : c.SeenAlike c' := by
  cases h <;> exact ⟨rfl, rfl, rfl, rfl, rfl⟩

theorem Parted.id_eq (h : Parted id c c') : c'.id = c.id := by cases h <;> rfl

theorem workLeft_of_undriven (h : c.isDriven = false) : c.workLeft ctx = 0 := by
  unfold isDriven at h
  unfold Connection.workLeft
  split at h <;> simp_all

theorem Parted.workLeft (h : Parted id c c') : c'.workLeft ctx = c.workLeft ctx := by
  cases h with
  | same | driven => rfl
  | @undriven writable writeQueued _ _ undriven =>
    rw [workLeft_of_undriven undriven, workLeft_of_undriven (c := c.loose writable writeQueued) undriven]

theorem isAlive_of_isDriven (h : c.isDriven = true) : c.isAlive = true := by
  rw [isAlive, h, Bool.or_true]

theorem abandonWaits_of_told (h : .pending ∉ c.waits) : c.abandonWaits = c := by
  have hwaits : (c.waits.map fun w => if w = .pending then .abandoned else w) = c.waits := by
    refine (List.map_congr_left fun w hw => if_neg ?_).trans c.waits.map_id
    rintro rfl
    exact h hw
  rw [abandonWaits, hwaits]

/-- Where nobody is let go of, the handle is all that is lost. -/
theorem dropHandle_eq_unheld (h : c.isDriven = true ∨ .pending ∉ c.waits) : c.dropHandle = c.unheld := by
  rw [dropHandle_eq]
  split
  · rfl
  · rename_i hd
    exact abandonWaits_of_told (c := c.unheld) (h.resolve_left hd)

/-- With the handle of an idle connection go all who wait for it. -/
theorem Candid.waits_dropHandle (h : c.Candid) (hstanding : c.Standing stopped) (hidle : c.state = .idle) :
    c.dropHandle.waits = c.waits.map fun _ => .abandoned := by
  rw [dropHandle_eq, hstanding.undriven_of_idle hidle, if_neg (by decide)]
  refine List.map_congr_left fun w hw => ?_
  rcases h.waits w hw with rfl | rfl
  · rfl
  · rw [(hstanding.of_idle hidle).2.1]
    rfl

/-- In the second bridge nothing is lost if the handle is dropped in the first one, too. -/
theorem Parted.eq_or_dropped (h : Parted id c c') :
    c' = c ∨ c.id = id ∧ c'.held = false ∧ Parted id c.dropHandle c' := by
  cases h with
  | same => exact .inl rfl
  | driven name driven =>
    rw [dropHandle_eq_unheld (.inl driven)]
    exact .inr ⟨name, rfl, .same⟩
  | undriven name begun undriven told =>
    rw [dropHandle_eq_unheld (.inr told)]
    exact .inr ⟨name, rfl, .undriven (c := c.unheld) name begun undriven told⟩

theorem farCall_loose (writable writeQueued : Bool) (c : Connection) (call : FarCall) :
    ((c.loose writable writeQueued).farCall call).2 =
      (c.farCall call).2.loose writable writeQueued := by
  cases call with
  | send arrivals =>
    have hdriven : (c.loose writable writeQueued).isDriven = c.isDriven := rfl
    unfold farCall
    rw [hdriven]
    dsimp only
    split <;> rfl
  | _ => rfl

theorem Parted.farCall (h : Parted id c c') (call : FarCall) :
    Parted id (c.farCall call).2 (c'.farCall call).2 := by
  obtain ⟨_, _, hfar⟩ := c.farCall_eq call
  cases h with
  | same => exact .same
  | driven name driven =>
    have hunheld : (c.unheld.farCall call).2 = (c.farCall call).2.unheld := by
      have hloose := farCall_loose c.writable c.writeQueued c call
      rw [hfar] at hloose ⊢
      exact hloose
    rw [hunheld, hfar]
    exact .driven name driven
  | undriven name begun undriven told =>
    rw [farCall_loose, hfar]
    exact .undriven name begun undriven told

/-- A step of the driver, in whatever order, is the same without the handle. Behind it the driver is still
at work, or nobody waits any more. -/
theorem Parted.getD {g : Connection → Option Connection} (h : Parted id c c')
    (hstanding : c.Standing false) (hunheld : g c.unheld = (g c).map unheld)
    (hundriven : ∀ {d}, d.isDriven = false → g d = none)
    (hprogress : ∀ {d}, g c = some d → Progress ctx c d) :
    ((g c).getD c).Standing false ∧ Parted id ((g c).getD c) ((g c').getD c') := by
  have hkept : ((g c).getD c).Standing false := by
    cases hg : g c with
    | none => exact hstanding
    | some d => exact hstanding.progress (hprogress hg)
  refine ⟨hkept, ?_⟩
  cases h with
  | same => exact .same
  | driven name driven =>
    rw [hunheld]
    cases hg : g c with
    | none => exact .driven name driven
    | some d =>
      have hbegun := (hprogress hg).begun hstanding
      have hname := (hprogress hg).id.trans name
      cases hd : d.isDriven with
      | true => exact .driven hname hd
      | false =>
        exact .undriven (c := d) hname hbegun hd ((hprogress hg).told.resolve_left (by simp [hd]))
  | @undriven writable writeQueued name begun undriven told =>
    rw [hundriven undriven, hundriven (d := c.loose writable writeQueued) undriven]
    exact .undriven name begun undriven told

theorem Parted.seeTo? (h : Parted id c c') (hstanding : c.Standing false) (e : Errand) :
    ((c.seeTo? ctx e).getD c).Standing false ∧
      Parted id ((c.seeTo? ctx e).getD c) ((c'.seeTo? ctx e).getD c') :=
  h.getD (g := (Connection.seeTo? ctx · e)) hstanding (seeTo?_unheld ctx c e) (seeTo?_of_undriven · e)
    (progress_of_seeTo? hstanding)

theorem Parted.step? (h : Parted id c c') (hstanding : c.Standing false) :
    ((c.step? ctx).getD c).Standing false ∧
      Parted id ((c.step? ctx).getD c) ((c'.step? ctx).getD c') :=
  h.getD (g := Connection.step? ctx) hstanding (step?_unheld ctx c)
    (fun hd => step?_eq_none_iff.mpr (seeTo?_of_undriven hd))
    (progress_of_step hstanding)

/-- Without the handle the driver comes as far as with it. -/
theorem Parted.drive (h : Parted id c c') (hstanding : c.Standing false) :
    (c.drive ctx).Standing false ∧ Parted id (c.drive ctx) (c'.drive ctx) := by
  unfold Connection.drive
  rw [h.workLeft]
  generalize c.workLeft ctx = n
  induction n generalizing c c' with
  | zero => exact ⟨hstanding, h⟩
  | succ n ih =>
    rw [driveFor_succ, driveFor_succ]
    exact ih (h.step? hstanding).2 (h.step? hstanding).1

/-! ### The loop and the shutdown -/

theorem Parted.takeConnect (b : Bridge) (h : Parted id c c') (hstanding : c.Standing false) :
    Parted id (b.takeConnect c) (b.takeConnect c') := by
  cases h with
  | same => exact .same
  | driven name driven =>
    have hbegun := hstanding.begun_of_isDriven driven
    rw [Bridge.takeConnect_of_not fun h => hbegun h.2,
      Bridge.takeConnect_of_not (c := c.unheld) fun h => hbegun h.2]
    exact .driven name driven
  | @undriven writable writeQueued name begun undriven told =>
    rw [Bridge.takeConnect_of_not fun h => begun h.2,
      Bridge.takeConnect_of_not (c := c.loose writable writeQueued) fun h => begun h.2]
    exact .undriven name begun undriven told

theorem Parted.takeDisconnect (h : Parted id c c') :
    Parted id (Bridge.takeDisconnect c) (Bridge.takeDisconnect c') := by
  rw [Bridge.takeDisconnect_eq, Bridge.takeDisconnect_eq]
  cases h with
  | same => exact .same
  | driven name driven =>
    have halive := isAlive_of_isDriven driven
    have halive' : c.unheld.isAlive = true := isAlive_of_isDriven driven
    rw [halive, halive']
    exact .driven (c := { c with writable := _ }) name driven
  | undriven name begun undriven told =>
    exact .undriven (c := { c with writable := _ }) name begun undriven told

theorem Parted.takeWrite (h : Parted id c c') :
    Parted id (Bridge.takeWrite c) (Bridge.takeWrite c') := by
  rw [Bridge.takeWrite_eq, Bridge.takeWrite_eq]
  cases h with
  | same => exact .same
  | driven name driven =>
    have halive := isAlive_of_isDriven driven
    have halive' : c.unheld.isAlive = true := isAlive_of_isDriven driven
    rw [halive, halive']
    exact .driven (c := { c with writeQueued := _, writable := _ }) name driven
  | undriven name begun undriven told =>
    exact .undriven (c := { c with writeQueued := _, writable := _ }) name begun undriven told

theorem Parted.letGo (h : Parted id c c') : Parted id (Bridge.letGo c) (Bridge.letGo c') := by
  cases h with
  | same => exact .same
  | driven name driven =>
    have halive := isAlive_of_isDriven driven
    have halive' : c.unheld.isAlive = true := isAlive_of_isDriven driven
    rw [Bridge.letGo, Bridge.letGo, if_pos halive, if_pos halive']
    exact .driven (c := c.abandonWaits) name driven
  | @undriven writable writeQueued name begun undriven told =>
    have hloose : (c.loose writable writeQueued).abandonWaits = c.loose writable writeQueued :=
      abandonWaits_of_told told
    rw [Bridge.letGo, Bridge.letGo, abandonWaits_of_told told, hloose, ite_self, ite_self]
    exact .undriven name begun undriven told

/-- With the driver goes whoever still waits. -/
theorem Parted.driverGone (h : Parted id c c') (hstanding : c.Standing stopped) :
    Parted id (if c.isDriven then c.driverGone else c) (if c'.isDriven then c'.driverGone else c') := by
  cases h with
  | same => exact .same
  | driven name driven =>
    rw [c.isDriven_unheld, if_pos driven, if_pos driven]
    exact .undriven (c := c.driverGone) name (hstanding.begun_of_isDriven driven) rfl
      (pending_not_mem_map (by simp) c.waits)
  | @undriven writable writeQueued name begun undriven told =>
    have hundriven : (c.loose writable writeQueued).isDriven = false := undriven
    rw [undriven, hundriven, if_neg (by decide), if_neg (by decide)]
    exact .undriven name begun undriven told

end Connection

end VoiceBridge
