import VoiceBridge.Proofs.Connection.Wiring

/-!
# What a step makes of the clocks

The session of an open connection holds when the far end was last heard, when the next ping is due and
until when the close may be answered. `Beat` lists what a step can make of them, together with what it
does to the wire, and `Progress.beat` says that every step that leaves the connection open is one of these
or the one that opens it.
-/

namespace VoiceBridge

namespace Connection

/-- What a step of the driver of an open connection can make of its session. -/
inductive Beat (ctx : LoopContext) (c : Connection) (s : Session) (c' : Connection) : Session → Prop
  /-- Text or audio is sent, or nothing. -/
  | same (inbound : c'.wire.inbound = c.wire.inbound)
      (sent : .close ∈ c'.wire.sent ↔ .close ∈ c.wire.sent) : Beat ctx c s c' s
  | closing (closeSent : s.closeSent = false) (state : c.state = .disconnecting)
      (inbound : c'.wire.inbound = c.wire.inbound ++ Wire.echo ctx.network .close)
      (sent : c'.wire.sent = c.wire.sent ++ [.close]) :
      Beat ctx c s c' { s with
        closeSent := true, closeDeadline := some (ctx.now + ctx.config.closeTimeout.nanos) }
  | pinged {p : PingTimer} (closeSent : s.closeSent = false) (timer : s.ping = some p)
      (due : p.next < ctx.now)
      (inbound : c'.wire.inbound = c.wire.inbound ++ Wire.echo ctx.network (.ping []))
      (sent : c'.wire.sent = c.wire.sent ++ [.ping []]) :
      Beat ctx c s c' { s with ping := some (p.ticked ctx.now) }
  /-- Something that does not end the connection was taken in. -/
  | heard {rest : List Arrival} {a : Arrival} (assembly : Assembly)
      (before : c.wire.inbound = a :: rest) (after : c'.wire.inbound = rest)
      (sent : c'.wire.sent = c.wire.sent) :
      Beat ctx c s c' { s with lastHeard := ctx.now, assembly }

section Steps

variable {ctx : LoopContext} {c c' : Connection} {s s' : Session}

theorem Beat.of_attempt {f : OutboundFrame} {before after : Connection} (hwired : c.Wired)
    (hp : c.phase = .live s) (ha : Attempt ctx c s f before after)
    (hp' : after.phase = .live s') (log : List LogLine) :
    Beat ctx c s { after with wire := c.wire.sending ctx.network f, log } s' := by
  have hquiet : ∀ {g : OutboundFrame}, g ≠ .close → Wire.echo ctx.network g = [] →
      (c.wire.sending ctx.network g).inbound = c.wire.inbound ∧
        (.close ∈ (c.wire.sending ctx.network g).sent ↔ .close ∈ c.wire.sent) := by
    intro g hg hecho
    exact ⟨by rw [Wire.sending, hecho, List.append_nil], close_mem_append hg⟩
  cases ha with
  | text _ _ _ outbox =>
    have hf := hwired.outbox f (by rw [outbox]; exact List.mem_cons_self)
    obtain ⟨hin, hsent⟩ := hquiet (ne_close_of_isQueued hf) (Wire.echo_of_isQueued _ hf)
    have hs : s = s' := Phase.live.inj (hp.symm.trans hp')
    exact hs ▸ .same hin hsent
  | close _ _ closeSent _ state =>
    cases hp'
    exact .closing closeSent state rfl rfl
  | audio =>
    obtain ⟨hin, hsent⟩ := hquiet (g := .binary c.audio.pending) (by simp) rfl
    have hs : s = s' := Phase.live.inj (hp.symm.trans hp')
    exact hs ▸ .same hin hsent
  | ping closeSent timer due =>
    cases hp'
    exact .pinged closeSent timer due rfl rfl

/-- A step that leaves the connection open beats its clocks or has just opened it. -/
theorem Progress.beat (h : Progress ctx c c') (hwired : c.Wired) (hp' : c'.phase = .live s') :
    (∃ s, c.phase = .live s ∧ Beat ctx c s c' s') ∨
      ((∃ since delay, c.phase = .dialling since delay) ∧ s' = .begin ctx c.config ∧
        c'.wire.inbound = c.wire.inbound ∧ c'.wire.sent = c.wire.sent) := by
  cases h with
  | opened log phase =>
    cases hp'
    exact .inr ⟨⟨_, _, phase⟩, rfl, rfl, rfl⟩
  | spent => exact .inl ⟨s', hp', .same rfl Iff.rfl⟩
  | quiet => exact .inl ⟨s', hp', .same rfl Iff.rfl⟩
  | sent log phase attempt => exact .inl ⟨_, phase, .of_attempt hwired phase attempt hp' log⟩
  | discarded phase inbound =>
    cases hp'
    exact .inl ⟨_, phase, .heard _ inbound rfl rfl⟩
  | taken log phase inbound =>
    cases hp'
    exact .inl ⟨_, phase, .heard _ inbound rfl rfl⟩
  | @heard s rest phase inbound =>
    cases hp'
    exact .inl ⟨_, phase, .heard s.assembly inbound rfl rfl⟩
  | refused => cases hp'
  | lost => cases hp'
  | ended => cases hp'
  | expired => cases hp'
  | broken => cases hp'

/-- Once a driver has begun, it does not begin again. -/
theorem Progress.isBegun (h : Progress ctx c c') :
    (∃ s, c'.phase = .live s) ∨ c'.phase = .over := by
  cases h with
  | refused => exact .inr rfl
  | opened => exact .inl ⟨_, rfl⟩
  | spent phase => exact .inl ⟨_, phase⟩
  | quiet log phase => exact .inl ⟨_, phase⟩
  | sent log phase attempt =>
    cases attempt with
    | text => exact .inl ⟨_, phase⟩
    | close => exact .inl ⟨_, rfl⟩
    | audio => exact .inl ⟨_, phase⟩
    | ping => exact .inl ⟨_, rfl⟩
  | lost => exact .inr rfl
  | discarded => exact .inl ⟨_, rfl⟩
  | taken => exact .inl ⟨_, rfl⟩
  | heard => exact .inl ⟨_, rfl⟩
  | ended => exact .inr rfl
  | expired => exact .inr rfl
  | broken => exact .inr rfl

theorem Progress.faults (h : Progress ctx c c') : c'.wire.faults = c.wire.faults := by
  cases h with
  | sent log phase attempt => cases attempt <;> rfl
  | lost log phase attempt => cases attempt <;> rfl
  | _ => rfl

end Steps

end Connection

end VoiceBridge
