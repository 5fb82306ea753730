import VoiceBridge.Proofs.Run.Clock

/-!
# The drivers come to rest

After every scenario nothing is ready at any connection, as long as the service runs (`stilled_run`). So a
scenario is a play in which time passes only at rest (`exists_restful_run`). A driver that pings without a
pause between the pings would never come to rest, but it breaks down before it sends the first.
-/

namespace VoiceBridge

namespace Bridge

/-- An open connection sends pings with the period that the settings give. -/
theorem period_play {config : ServiceConfig} {moves : List Move} {id : String} {c : Connection}
    (hc : (play { config } moves).find? id = some c) {s : Session} (hp : c.phase = .live s) :
    s.ping.map (·.period) = (c.config.profile.keepaliveInterval config.keepalive).map Span.nanos := by
  have hperiod := ((keepsTime_play hc).punctual s hp).period
  rwa [config_play] at hperiod

/-- A bridge after a play, at rest as long as it runs. -/
structure Stilled (config : ServiceConfig) (b : Bridge) : Prop where
  reached : ∃ moves, b = play { config } moves
  atRest : b.queues.stopped = false → b.AtRest

theorem stilled_new (config : ServiceConfig) : ({ config } : Bridge).Stilled config :=
  ⟨⟨[], rfl⟩, fun _ => ⟨rfl, fun _ hc => (List.not_mem_nil hc).elim⟩⟩

theorem stilled_settle (config : ServiceConfig) (moves : List Move) :
    (play { config } moves).settle.Stilled config := by
  obtain ⟨later, hlater⟩ := exists_later_settle { config } moves
  refine ⟨⟨moves ++ later, hlater⟩, fun hs => ?_⟩
  exact atRest_settle (wired_play config moves) ((stopped_settle _).symm.trans hs)

theorem Stilled.step {config : ServiceConfig} {b : Bridge} (h : b.Stilled config) (step : Step) :
    (b.step step).2.Stilled config := by
  cases step with
  | acts actions =>
    obtain ⟨moves, rfl⟩ := h.reached
    change ((play { config } moves).actAll actions).2.settle.Stilled config
    rw [actAll_eq, ← play_append]
    exact stilled_settle config _
  | advance jumps =>
    change (jumps.foldl jump b).Stilled config
    induction jumps generalizing b with
    | nil => exact h
    | cons nanos rest ih =>
      obtain ⟨moves, rfl⟩ := h.reached
      exact ih (jump_play { config } moves nanos ▸ stilled_settle config _)

/-- After every scenario the bridge is at rest, as long as it runs. -/
theorem stilled_run (config : ServiceConfig) (steps : List Step) :
    (run { config } steps).2.Stilled config := by
  have hrun : ∀ (steps : List Step) {b : Bridge}, b.Stilled config →
      (b.run steps).2.Stilled config := by
    intro steps
    induction steps with
    | nil => exact fun h => h
    | cons step rest ih => exact fun h => ih (h.step step)
  exact hrun steps (stilled_new config)

/-! ### Time passes at rest

What a scenario makes of time: it waits for some `W` at a time, and at rest as long as the service runs.
A play in which that is allowed, and every other move, is the same as the scenario. -/

section Restful

variable {config : ServiceConfig} {M : Bridge → Move → Prop} {W : Nat → Prop}
  (hstill : ∀ b m, (∀ nanos, m ≠ .wait nanos) → M b m)
  (hwait : ∀ b nanos, W nanos → (b.queues.stopped = false → b.AtRest) → M b (.wait nanos))

include hstill

theorem along_of_still {moves : List Move} (h : ∀ nanos, .wait nanos ∉ moves) (b : Bridge) :
    b.Along M moves := by
  induction moves generalizing b with
  | nil => trivial
  | cons m moves ih =>
    refine ⟨hstill b m fun nanos heq => h nanos (heq ▸ List.mem_cons_self), ?_⟩
    exact ih (fun nanos hmem => h nanos (List.mem_cons_of_mem _ hmem)) _

theorem exists_restful_settle (b : Bridge) :
    ∃ moves : List Move, b.Along M moves ∧ moves.filterMap Move.action? = [] ∧
      b.settle = b.play moves := by
  obtain ⟨todo, hsettle, -⟩ := exists_errands_settle b
  refine ⟨.loop :: errands todo, along_of_still hstill (fun nanos hmem => ?_) b, ?_, hsettle⟩
  · simp [errands] at hmem
  · exact List.filterMap_eq_nil_iff.mpr fun m hm => by
      rcases List.mem_cons.mp hm with rfl | hm
      · rfl
      · obtain ⟨_, _, rfl⟩ := List.mem_map.mp hm
        rfl

include hwait

theorem exists_restful_advance (jumps : List Nat) (hjumps : ∀ nanos ∈ jumps, W nanos) {b : Bridge}
    (h : b.Stilled config) :
    ∃ moves : List Move, b.Along M moves ∧ moves.filterMap Move.action? = [] ∧
      b.advance jumps = b.play moves := by
  induction jumps generalizing b with
  | nil => exact ⟨[], trivial, rfl, rfl⟩
  | cons nanos rest ih =>
    obtain ⟨settling, hM, hquiet, hsettle⟩ :=
      exists_restful_settle hstill { b with now := b.now + nanos }
    obtain ⟨later, hM', hquiet', hadvance⟩ :=
      ih (fun n hn => hjumps n (List.mem_cons_of_mem _ hn)) (h.step (.advance [nanos]))
    have hjump : b.jump nanos = b.play (.wait nanos :: settling) := hsettle
    change (b.jump nanos).Along _ later at hM'
    change (b.jump nanos).advance rest = (b.jump nanos).play later at hadvance
    rw [hjump] at hM' hadvance
    refine ⟨.wait nanos :: settling ++ later, along_append.mpr ⟨⟨?_, hM⟩, hM'⟩, ?_, ?_⟩
    · exact hwait b nanos (hjumps nanos List.mem_cons_self) h.atRest
    · rw [List.filterMap_append, hquiet', List.append_nil]
      exact hquiet
    · rw [play_append, ← hadvance, ← hjump]
      rfl

theorem exists_restful_step (step : Step)
    (hjumps : ∀ jumps, .advance jumps = step → ∀ nanos ∈ jumps, W nanos) {b : Bridge}
    (h : b.Stilled config) :
    ∃ moves : List Move, b.Along M moves ∧
      moves.filterMap Move.action? = step.actions ∧ (b.step step).2 = b.play moves := by
  cases step with
  | advance jumps => exact exists_restful_advance hstill hwait jumps (hjumps jumps rfl) h
  | acts actions =>
    obtain ⟨settling, hM, hquiet, hsettle⟩ :=
      exists_restful_settle hstill (b.actAll actions).2
    rw [actAll_eq] at hM hsettle
    refine ⟨actions.map .act ++ settling, along_append.mpr ⟨?_, hM⟩, ?_, ?_⟩
    · exact along_of_still hstill (fun nanos hmem => by simp at hmem) b
    · rw [List.filterMap_append, hquiet, List.append_nil]
      exact filterMap_action?_acts actions
    · rw [play_append, ← hsettle, ← actAll_eq]
      rfl

/-- A scenario is a play with the same actions, in which time passes by the jumps of the scenario and, as
long as the service runs, only at rest. -/
theorem exists_restful_run (steps : List Step)
    (hjumps : ∀ jumps, Step.advance jumps ∈ steps → ∀ nanos ∈ jumps, W nanos) :
    ∃ moves : List Move, ({ config } : Bridge).Along M moves ∧
      moves.filterMap Move.action? = steps.flatMap Step.actions ∧
      (run { config } steps).2 = play { config } moves := by
  have hrun : ∀ (steps : List Step) {b : Bridge},
      (∀ jumps, Step.advance jumps ∈ steps → ∀ nanos ∈ jumps, W nanos) → b.Stilled config →
      ∃ moves : List Move, b.Along M moves ∧
        moves.filterMap Move.action? = steps.flatMap Step.actions ∧
        (b.run steps).2 = b.play moves := by
    intro steps
    induction steps with
    | nil => exact fun _ _ => ⟨[], trivial, rfl, rfl⟩
    | cons step rest ih =>
      intro b hjumps h
      obtain ⟨moves, hM, hacts, hreached⟩ := exists_restful_step hstill hwait step
        (fun jumps hmem => hjumps jumps (hmem ▸ List.mem_cons_self)) h
      obtain ⟨later, hM', hacts', hrest⟩ :=
        ih (fun jumps hmem => hjumps jumps (List.mem_cons_of_mem _ hmem)) (h.step step)
      rw [hreached] at hM' hrest
      refine ⟨moves ++ later, along_append.mpr ⟨hM, hM'⟩, ?_, ?_⟩
      · rw [List.filterMap_append, hacts, hacts', List.flatMap_cons]
      · rw [play_append, ← hrest, ← hreached]
        rfl
  exact hrun steps hjumps (stilled_new config)

end Restful

end Bridge

end VoiceBridge
