import Mathlib.Logic.Relation
import VoiceBridge.Proofs.Probe.Course
import VoiceBridge.Proofs.Run.Expiry

/-!
# The outcome that a probe reports

A run of a probe is one of its courses (`Reaches.run`). The one place where that takes an argument is the
wait for the end of a connection that was closed: the run looks only so often, and has to have been told
by then. It is, for with the last look the deadline for the answer to the close frame has passed
(`told_of_late`), whatever the far end does.
-/

namespace VoiceBridge

namespace ProbeRun

variable {σ : Type} {settings : ProbeSettings} {pcm : Option Bytes} {r r' r₀ : ProbeRun σ} {s : Stage}
  {c : Connection} {behaviour : FarEndBehaviour σ}

/-! ### What goes on beside the probe -/

/-- What comes of any number of things beside the probe. -/
abbrev Alongside : ProbeRun σ → ProbeRun σ → Prop := Relation.ReflTransGen Beside

namespace Alongside

theorem trans {r'' : ProbeRun σ} (h : Alongside r r') (h' : Alongside r' r'') : Alongside r r'' :=
  Relation.ReflTransGen.trans h h'

theorem reaches (h : Alongside r r') (hr : Reaches settings pcm r₀ s r) :
    Reaches settings pcm r₀ s r' := by
  induction h with
  | refl => exact hr
  | tail _ hbeside ih => exact ih.next (.beside hbeside)

theorem move (m : Move) (hm : m.Spares r.id) :
    Alongside r { r with bridge := r.bridge.move m } := .single (.moved m hm)

theorem settle (h : r.bridge.Tended) : Alongside r { r with bridge := r.bridge.settle } := by
  apply h.settle_of_own (Q := fun b => Alongside r { r with bridge := b })
  · intro b m hm _ hbefore
    exact hbefore.trans (move m (Move.spares_of_isOwn hm r.id))
  · exact .refl

theorem answered (behaviour : FarEndBehaviour σ) (r : ProbeRun σ) :
    Alongside r (r.answered behaviour) := by
  unfold ProbeRun.answered
  split
  · exact .refl
  · rename_i c _
    have hlook : Alongside r _ := .single (.collected (behaviour r.far c.wire.uncollected).2)
    exact hlook.trans (move (.act (.far r.id (.send _))) ⟨nofun, fun _ => nofun⟩)

theorem tended (h : Alongside r r') (hr : r.bridge.Tended) : r'.bridge.Tended := by
  induction h with
  | refl => exact hr
  | tail _ hbeside ih => exact hbeside.tended ih

/-- What the clock can tell later on it can tell before. -/
theorem clock (h : Alongside r r') {profile : Profile} (hreach : r'.bridge.ClockReaches profile) :
    r.bridge.ClockReaches profile := by
  induction h with
  | refl => exact hreach
  | tail _ hbeside ih =>
    apply ih
    cases hbeside with
    | moved m => exact hreach.of_move
    | collected => exact hreach.before rfl (Nat.le_refl _)

/-- What is kept while a connection is left alone is kept beside the probe. -/
theorem kept {P : Connection → Prop} (hP : Connection.KeptAlone (fun _ => True) P)
    (h : Alongside r r') (hr : r.bridge.Tended) (hp : ∃ c, r.connection? = some c ∧ P c) :
    ∃ c, r'.connection? = some c ∧ P c := by
  induction h with
  | refl => exact hp
  | tail hbefore hbeside ih =>
    obtain ⟨c, hc, hpc⟩ := ih
    cases hbeside with
    | moved m spares => exact hP.move (tended hbefore hr) trivial spares hc hpc
    | collected => exact hP.collectAll hc hpc

theorem exchange (behaviour : FarEndBehaviour σ) (h : r.bridge.Tended) :
    Alongside r (r.exchange behaviour) := by
  have hbefore := (settle h).trans (answered behaviour _)
  exact hbefore.trans (settle (hbefore.tended h))

theorem pause (h : r.bridge.Tended) (d : Span) : Alongside r (r.pause d) := by
  have hwait : Alongside r _ := move (.wait d.nanos) ⟨nofun, fun _ => nofun⟩
  exact hwait.trans (settle (hwait.tended h))

end Alongside

/-! ### Time and settings -/

theorem now_answered (behaviour : FarEndBehaviour σ) (r : ProbeRun σ) :
    (r.answered behaviour).bridge.now = r.bridge.now := by
  unfold answered
  split
  · rfl
  · exact Bridge.now_move r.bridge.collectAll (.act (.far r.id (.send _)))

theorem now_settle {b : Bridge} (h : b.Tended) : b.settle.now = b.now :=
  congrArg LoopContext.now h.context_settle

theorem now_exchange (h : r.bridge.Tended) : (r.exchange behaviour).bridge.now = r.bridge.now := by
  have htended := ((Alongside.settle h).trans (Alongside.answered behaviour _)).tended h
  exact (now_settle htended).trans ((now_answered behaviour _).trans (now_settle h))

theorem now_pause (h : r.bridge.Tended) (d : Span) :
    (r.pause d).bridge.now = r.bridge.now + d.nanos :=
  now_settle (h.move (m := (.wait d.nanos)) nofun)

/-- The settings of the service stay as they are. -/
theorem Next.config {s' : Stage} (h : Next settings pcm s r s' r') :
    r'.bridge.config = r.bridge.config := by
  have hcall (call : Call) : (r.call call).2.bridge.config = r.bridge.config :=
    Bridge.config_move r.bridge (.act (.call r.id call))
  cases h with
  | beside h =>
    cases h with
    | moved m => exact Bridge.config_move r.bridge m
    | collected => rfl
  | announced =>
    unfold announce
    split
    · exact hcall _
    · rfl
  | asked => exact hcall _
  | wrote => exact hcall _
  | finished => exact hcall _
  | closed => exact hcall _
  | _ => rfl

theorem Reaches.config (h : Reaches settings pcm r₀ s r) : r.bridge.config = r₀.bridge.config := by
  induction h with
  | start => rfl
  | next _ hnext ih => exact hnext.config.trans ih

/-! ### The wait for the end -/

/-- A look goes on to the next, unless there is an answer. -/
theorem awaitCompletion_succ (n : Nat) (r : ProbeRun σ) :
    r.awaitCompletion behaviour (n + 1) =
      if (r.exchange behaviour).lastWait? = some .pending then
        ((r.exchange behaviour).pause tick).awaitCompletion behaviour n
      else ((r.exchange behaviour).told?, r.exchange behaviour) := by
  have hlast : (r.exchange behaviour).connection?.bind (·.waits.getLast?) =
      (r.exchange behaviour).lastWait? := rfl
  rw [awaitCompletion, hlast]
  unfold told?
  cases (r.exchange behaviour).lastWait? with
  | none => rfl
  | some w => cases w <;> rfl

variable {limit : Nat} {outcome : Option TerminalOutcome}

/-- The wait goes on beside what else there is. -/
theorem Alongside.awaitCompletion (behaviour : FarEndBehaviour σ) (n : Nat) (h : r.bridge.Tended) :
    Alongside r (r.awaitCompletion behaviour n).2 := by
  induction n generalizing r with
  | zero => exact .refl
  | succ n ih =>
    have hexchange := Alongside.exchange behaviour h
    rw [awaitCompletion_succ]
    split
    · have hpause := Alongside.pause (hexchange.tended h) tick
      exact (hexchange.trans hpause).trans (ih (hpause.tended (hexchange.tended h)))
    · exact hexchange

/-- Behind the deadline a look finds an answer, as long as the clock reaches. -/
theorem told_of_late (hfits : Fits settings (.joining outcome) r)
    (hleaving : ∃ c, r.connection? = some c ∧ c.Leaving limit) (hlate : limit < r.bridge.now)
    (behaviour : FarEndBehaviour σ)
    (hreach : (r.exchange behaviour).bridge.ClockReaches settings.connection.profile) :
    (r.exchange behaviour).lastWait? ≠ some .pending := by
  obtain ⟨c, hc, hleaving⟩ := hleaving
  have hexchange := Alongside.exchange behaviour hfits.tended
  have hknown := hexchange.kept
    ((Connection.keptAlone_config settings.connection).and Connection.keptAlone_attended) hfits.tended
    (hfits.stands.imp fun _ h => ⟨h.1, h.2.1, h.2.2.1⟩)
  obtain ⟨d, hd, hsame, hattended⟩ := hknown
  have hwhole := (hexchange.tended hfits.tended).not_cutOff hd (hsame ▸ hreach)
  -- The connection has ended before the far end is heard, and nothing it sends changes that.
  obtain ⟨c₁, hc₁, hover⟩ := Bridge.over_settle hfits.tended hc hleaving hlate
  have hanswered := Alongside.answered behaviour { r with bridge := r.bridge.settle }
  have hlater := hanswered.trans (Alongside.settle (hanswered.tended hfits.tended.settle))
  obtain ⟨c₂, hc₂, hover₂⟩ := hlater.kept Connection.keptAlone_over hfits.tended.settle ⟨c₁, hc₁, hover⟩
  cases hc₂.symm.trans hd
  obtain ⟨o, ho⟩ :=
    ((hexchange.tended hfits.tended).standing hd).outcome_of_over hover₂ hwhole
  intro hpending
  simp only [lastWait?, hd, Option.bind_some] at hpending
  have htold := hattended.told hwhole _ (List.mem_of_getLast? hpending)
  rw [ho] at htold
  cases htold

/-- Whoever looks until the deadline has passed gets an answer, as long as the clock reaches. -/
theorem awaitCompletion_spec (hstart : Fits settings .start r₀) (n : Nat)
    (hr : Reaches settings pcm r₀ (.joining outcome) r)
    (hleaving : ∃ c, r.connection? = some c ∧ c.Leaving limit)
    (hlate : limit < r.bridge.now + n * tick.nanos)
    (hreach : (r.awaitCompletion behaviour (n + 1)).2.bridge.ClockReaches settings.connection.profile) :
    (r.awaitCompletion behaviour (n + 1)).2.lastWait? ≠ some .pending ∧
      (r.awaitCompletion behaviour (n + 1)).1 = (r.awaitCompletion behaviour (n + 1)).2.told? := by
  induction n generalizing r with
  | zero =>
    have hfits := hr.fits hstart
    rw [awaitCompletion_succ] at hreach ⊢
    split at hreach
    · rename_i hpending
      have hexchange := Alongside.exchange behaviour hfits.tended
      have hpause := Alongside.pause (hexchange.tended hfits.tended) tick
      have htold := told_of_late hfits hleaving (by simpa using hlate) behaviour (hpause.clock hreach)
      exact absurd hpending htold
    · rename_i htold
      rw [if_neg htold]
      exact ⟨htold, rfl⟩
  | succ n ih =>
    have htended := (hr.fits hstart).tended
    have hexchange := Alongside.exchange behaviour htended
    rw [awaitCompletion_succ] at hreach ⊢
    split
    · rename_i hpending
      rw [if_pos hpending] at hreach
      have hpause := Alongside.pause (hexchange.tended htended) tick
      have hlater := hexchange.trans hpause
      refine ih (hlater.reaches hr) ?_ ?_ hreach
      · exact hlater.kept (Connection.keptAlone_leaving limit) htended hleaving
      · rw [now_pause (hexchange.tended htended), now_exchange htended]
        rw [Nat.succ_mul] at hlate
        omega
    · rename_i htold
      exact ⟨htold, rfl⟩

theorem looks_eq (d : Span) : looks d = d.nanos / tick.nanos + 2 := rfl

theorem lt_looks (d : Span) : d.nanos < tick.nanos + d.nanos / tick.nanos * tick.nanos := by
  have hpos : 0 < tick.nanos := by decide
  have hdiv := Nat.lt_div_mul_add (a := d.nanos) hpos
  omega

/-- The probe is told before it stops looking, as long as the clock reaches. -/
theorem awaitCompletion_of_going (behaviour : FarEndBehaviour σ) (hstart : Fits settings .start r₀)
    (hr : Reaches settings pcm r₀ (.joining outcome) r) (hc : r.connection? = some c)
    (hgoing : c.Going) (hdue : ∀ limit, c.DueBy limit)
    (hreach : (r.awaitCompletion behaviour (looks r.bridge.config.closeTimeout)).2.bridge.ClockReaches
      settings.connection.profile) :
    (r.awaitCompletion behaviour (looks r.bridge.config.closeTimeout)).2.lastWait? ≠ some .pending ∧
      (r.awaitCompletion behaviour (looks r.bridge.config.closeTimeout)).1 =
        (r.awaitCompletion behaviour (looks r.bridge.config.closeTimeout)).2.told? := by
  have htended := (hr.fits hstart).tended
  have hexchange := Alongside.exchange behaviour htended
  -- The close frame goes out when the bridge settles for the first time.
  have hleaving : ∃ c, (r.exchange behaviour).connection? = some c ∧
      c.Leaving (r.bridge.now + r.bridge.config.closeTimeout.nanos) := by
    have hanswered := Alongside.answered behaviour { r with bridge := r.bridge.settle }
    have hlater := hanswered.trans (Alongside.settle (hanswered.tended htended.settle))
    exact hlater.kept (Connection.keptAlone_leaving _) htended.settle
      (Bridge.leaving_settle htended hc hgoing (hdue _) (Nat.le_refl _))
  rw [looks_eq, awaitCompletion_succ] at hreach ⊢
  split
  · rename_i hpending
    rw [if_pos hpending] at hreach
    have hpause := Alongside.pause (hexchange.tended htended) tick
    have hpaused := hpause.kept (Connection.keptAlone_leaving _) (hexchange.tended htended) hleaving
    refine awaitCompletion_spec hstart _ ((hexchange.trans hpause).reaches hr) hpaused ?_ hreach
    · rw [now_pause (hexchange.tended htended), now_exchange htended, Nat.add_assoc]
      exact Nat.add_lt_add_left (lt_looks _) _
  · rename_i htold
    exact ⟨htold, rfl⟩

/-! ### A run is a course -/

theorem Reaches.ask {frames : List Bytes} (hr : Reaches settings pcm r₀ (.announcing frames) r) :
    Reaches settings pcm r₀ ((Stage.awaiting frames).orDone (r.start settings).1)
      (r.start settings).2 := by
  have hannounced := hr.next .announced
  simp only [announce, ProbeSettings.announcement] at hannounced
  unfold ProbeRun.start
  dsimp only
  generalize (if settings.sendStart then
    r.call (.text (settings.stream.startMessage settings.connection.sessionId).json)
    else (.ok (), r)) = answer at hannounced ⊢
  obtain ⟨result, r'⟩ := answer
  cases result with
  | error e => exact hannounced
  | ok => exact hannounced.next .asked

section

variable (hstart : Fits settings .start r₀)
include hstart

theorem Reaches.exchange (hr : Reaches settings pcm r₀ s r) (behaviour : FarEndBehaviour σ) :
    Reaches settings pcm r₀ s (r.exchange behaviour) :=
  (Alongside.exchange behaviour (hr.fits hstart).tended).reaches hr

theorem Reaches.pause (hr : Reaches settings pcm r₀ s r) (d : Span) :
    Reaches settings pcm r₀ s (r.pause d) :=
  (Alongside.pause (hr.fits hstart).tended d).reaches hr

theorem Reaches.awaitFirst {frames : List Bytes} (behaviour : FarEndBehaviour σ) (n : Nat)
    (hr : Reaches settings pcm r₀ (.awaiting frames) r) :
    Reaches settings pcm r₀ ((Stage.streaming none frames).orDone (r.awaitFirst behaviour n).1)
      (r.awaitFirst behaviour n).2 := by
  induction n generalizing r with
  | zero => exact hr.next .unanswered
  | succ n ih =>
    have hlook := hr.exchange hstart behaviour
    unfold ProbeRun.awaitFirst
    dsimp only
    split
    · rename_i hunread
      exact hlook.next (.answered hunread)
    · exact ih (hlook.pause hstart tick)

theorem Reaches.streamFrames {outcome : Option TerminalOutcome} {frames : List Bytes}
    (behaviour : FarEndBehaviour σ) (d : Span)
    (hr : Reaches settings pcm r₀ (.streaming outcome frames) r) :
    Reaches settings pcm r₀ (Stage.streamed.orEnd (r.streamFrames behaviour d outcome frames).1)
      (r.streamFrames behaviour d outcome frames).2 := by
  induction frames generalizing outcome r with
  | nil => exact hr.next (.streamed (.inl rfl))
  | cons frame rest ih =>
    unfold ProbeRun.streamFrames
    cases hopen : r.isConnected with
    | false => exact hr.next (.streamed (.inr hopen))
    | true =>
      have hread := ((hr.next (.found hopen)).next .wrote).next .noted
      exact ih ((hread.pause hstart d).exchange hstart behaviour)

theorem Reaches.awaitEnd (behaviour : FarEndBehaviour σ) (n : Nat)
    (hr : Reaches settings pcm r₀ .lingering r) :
    Reaches settings pcm r₀ (Stage.closing.orEnd (r.awaitEnd behaviour n).1)
      (r.awaitEnd behaviour n).2 := by
  induction n generalizing r with
  | zero => exact hr.next .waited
  | succ n ih =>
    have hheard := (hr.exchange hstart behaviour).next .heard
    unfold ProbeRun.awaitEnd
    generalize (r.exchange behaviour).readToEnd = look at hheard ⊢
    obtain ⟨outcome, r'⟩ := look
    cases outcome with
    | some o => exact hheard
    | none => exact ih (hheard.pause hstart tick)

theorem Reaches.closeDown (behaviour : FarEndBehaviour σ) (hr : Reaches settings pcm r₀ .closing r)
    (hreach : (r.closeDown behaviour r₀.bridge.config).2.bridge.ClockReaches
      settings.connection.profile) :
    Reaches settings pcm r₀ (.done (r.closeDown behaviour r₀.bridge.config).1)
      (r.closeDown behaviour r₀.bridge.config).2 := by
  obtain ⟨c, hc, -, hattended, ⟨hunclosed, hevents⟩, -⟩ := (hr.fits hstart).stands
  have hstanding := (hr.fits hstart).tended.standing hc
  have hafter := (call_spec hc hattended.held .closeWithCompletion).2
  have hgoing := Connection.going_closeWithCompletion (q := r.bridge.queues) hstanding hunclosed hevents
  have hclosed := hr.next .closed
  unfold ProbeRun.closeDown at hreach ⊢
  generalize r.call .closeWithCompletion = answer at hafter hclosed hreach ⊢
  obtain ⟨result, r'⟩ := answer
  cases result with
  | error e => exact hclosed
  | ok =>
    -- The events are drained before the probe waits, which leaves the connection as the close left it.
    have hjoining := hclosed.next .drained
    rw [← hjoining.config] at hreach ⊢
    obtain ⟨htold, hanswer⟩ := awaitCompletion_of_going behaviour hstart hjoining hafter (hgoing 0).1
      (fun limit => (hgoing limit).2) hreach
    have hawaited := Alongside.awaitCompletion behaviour (looks r'.readAll.2.bridge.config.closeTimeout)
      (hjoining.fits hstart).tended
    have hdone := (hawaited.reaches hjoining).next (.joined htold)
    rw [← hanswer] at hdone
    exact hdone

theorem Reaches.finishUp (behaviour : FarEndBehaviour σ) (hr : Reaches settings pcm r₀ .streamed r)
    (hreach : (r.finishUp behaviour settings r₀.bridge.config).2.bridge.ClockReaches
      settings.connection.profile) :
    Reaches settings pcm r₀ (.done (r.finishUp behaviour settings r₀.bridge.config).1)
      (r.finishUp behaviour settings r₀.bridge.config).2 := by
  have hlinger : Reaches settings pcm r₀
      (Stage.lingering.orDone (if r.isConnected then r.call .finish else (.ok (), r)).1)
      (if r.isConnected then r.call .finish else (.ok (), r)).2 := by
    have hlooked := hr.next .looked
    cases hopen : r.isConnected with
    | false =>
      rw [hopen] at hlooked
      exact hlooked
    | true =>
      rw [hopen] at hlooked
      exact hlooked.next .finished
  unfold ProbeRun.finishUp at hreach ⊢
  generalize (if r.isConnected then r.call .finish else (.ok (), r)) = answer at hlinger hreach ⊢
  obtain ⟨result, r'⟩ := answer
  cases result with
  | error e => exact hlinger
  | ok =>
    have hend := Reaches.awaitEnd hstart behaviour settings.waitSecs hlinger
    dsimp only at hreach ⊢
    generalize r'.awaitEnd behaviour settings.waitSecs = last at hend hreach ⊢
    obtain ⟨outcome, r''⟩ := last
    cases outcome with
    | some o => exact hend
    | none => exact hend.closeDown hstart behaviour hreach

theorem Reaches.carry {bytes : Bytes} (behaviour : FarEndBehaviour σ)
    (hr : Reaches settings pcm r₀ (.awaiting (settings.stream.cut bytes)) r)
    (hreach : (r.carry behaviour settings r₀.bridge.config bytes).2.bridge.ClockReaches
      settings.connection.profile) :
    Reaches settings pcm r₀ (.done (r.carry behaviour settings r₀.bridge.config bytes).1)
      (r.carry behaviour settings r₀.bridge.config bytes).2 := by
  have hfirst := hr.awaitFirst hstart behaviour (looks r₀.bridge.config.connectTimeout)
  unfold ProbeRun.carry at hreach ⊢
  generalize r.awaitFirst behaviour (looks r₀.bridge.config.connectTimeout) = first at hfirst hreach ⊢
  obtain ⟨result, r'⟩ := first
  cases result with
  | error e => exact hfirst
  | ok =>
    have hstreamed := Reaches.streamFrames hstart behaviour settings.stream.frameSpan hfirst
    dsimp only at hreach ⊢
    generalize r'.streamFrames behaviour settings.stream.frameSpan none (settings.stream.cut bytes) =
      streamed at hstreamed hreach ⊢
    obtain ⟨outcome, r''⟩ := streamed
    cases outcome with
    | some o => exact hstreamed
    | none => exact hstreamed.finishUp hstart behaviour hreach

theorem Reaches.run (behaviour : FarEndBehaviour σ)
    (hreach : (r₀.run behaviour settings r₀.bridge.config pcm).2.bridge.ClockReaches
      settings.connection.profile) :
    Reaches settings pcm r₀ (.done (r₀.run behaviour settings r₀.bridge.config pcm).1)
      (r₀.run behaviour settings r₀.bridge.config pcm).2 := by
  cases pcm with
  | none => exact Reaches.start.next (.unreadable rfl)
  | some bytes =>
    have hstarted : Reaches settings (some bytes) r₀ (.announcing (settings.stream.cut bytes)) r₀ :=
      Reaches.start.next (.readable rfl)
    have hasked := hstarted.ask
    unfold ProbeRun.run at hreach ⊢
    dsimp only at hreach ⊢
    generalize r₀.start settings = answer at hasked hreach ⊢
    obtain ⟨result, r⟩ := answer
    cases result with
    | error e => exact hasked
    | ok => exact hasked.carry hstart behaviour hreach

end

/-! ### The start -/

/-- A probe whose connection was just made. -/
theorem Fits.of_create {service : ServiceConfig} {network : Network} {b : Bridge} (far : σ)
    (h : ({ config := service, network } : Bridge).create settings.connection.sessionId
      settings.connection none = .ok b) :
    Fits settings .start { bridge := b, id := settings.connection.sessionId, far } := by
  obtain ⟨c, hc, -, hfind⟩ := Bridge.find?_create settings.connection.sessionId h
  have htended := (Bridge.Tended.new service network).move
    (m := (.act (.create settings.connection.sessionId settings.connection none))) nofun
  have hbridge : ({ config := service, network } : Bridge).move
      (.act (.create settings.connection.sessionId settings.connection none)) = b := by
    change (Bridge.act _ _).2 = b
    rw [Bridge.act_create, h]
  rw [hbridge] at htended
  rw [if_pos (Connection.id_of_create hc)] at hfind
  obtain ⟨hattended, hunspoken⟩ := Connection.unspoken_of_create hc
  have hsame : c.config = settings.connection := by
    obtain ⟨_, _, rfl⟩ := Connection.create_eq hc
    rfl
  exact ⟨htended, ⟨c, hfind, hsame, hattended, hunspoken.unclosed, fun _ => hunspoken⟩, fun _ => rfl,
    trivial⟩

/-- The first frame a far end hears is the announcement. -/
theorem Stage.Greets.first_frame {text : String} {f : OutboundFrame} (h : s.Greets text c)
    (hf : c.spoken.head? = some f) : f = .text text := by
  have hunspoken (hc : c.Unspoken) : f = .text text := by
    rw [hc.spoken] at hf
    cases hf
  have hannounced (hc : c.Announced text) : f = .text text := by
    cases hc with
    | said first => exact Option.some.inj (hf.symm.trans first)
    | queued silent => simp [silent] at hf
    | lost silent => simp [silent] at hf
  cases s with
  | start => exact hunspoken h
  | announcing => exact hunspoken h
  | done result =>
    cases result with
    | ok => exact hannounced h
    | error => exact h.elim hunspoken hannounced
  | _ => exact hannounced h

end ProbeRun

open ProbeRun in
/-- Wherever a probe gets to, whatever goes on beside it: the first event there is to read tells how the
request to connect went, and no run fails with an unexpected one; and with a start message, the first frame
that the far end receives, pings apart, is that message. As long as the clock reaches, a run that succeeds
reports the outcome of the one terminal event of its connection, and whoever waits for the completion is
told the outcome on record, so that nothing is made up in its place. A run of the probe during which the
clock reaches is such a course from its beginning to its end. -/
theorem probe_reports_real_outcome {σ : Type} (settings : ProbeSettings) (service : ServiceConfig)
    (network : Network) (pcm : Option Bytes) (far : σ) (b : Bridge)
    (hcreate : ({ config := service, network } : Bridge).create settings.connection.sessionId
      settings.connection none = .ok b) :
    let r₀ : ProbeRun σ := { bridge := b, id := settings.connection.sessionId, far }
    (∀ s r, Reaches settings pcm r₀ s r → ∃ c, r.connection? = some c ∧
      (∀ frames e rest, s = .awaiting frames → r.unread = e :: rest →
        r.read = 0 ∧ (e = .connectSuccess ∨ ∃ reason, e = .connectFail reason)) ∧
      (∀ e, s ≠ .done (.error (.fault (.unexpected e)))) ∧
      (r.bridge.ClockReaches settings.connection.profile →
        (∀ o, s = .done (.ok o) →
          ∃ e, c.events.filter (·.isTerminal) = [e] ∧ e.outcome? = some o) ∧
        (∀ outcome, s = .joining outcome → r.lastWait? ≠ some .pending →
          ∃ o, r.told? = some o ∧ c.outcome = some o)) ∧
      (settings.sendStart = true → ∀ f, (c.wire.sent.filter (!·.isPing)).head? = some f →
        f = .text (settings.stream.startMessage settings.connection.sessionId).json)) ∧
    ∀ behaviour,
      (r₀.run behaviour settings service pcm).2.bridge.ClockReaches settings.connection.profile →
      Reaches settings pcm r₀ (.done (r₀.run behaviour settings service pcm).1)
        (r₀.run behaviour settings service pcm).2 := by
  intro r₀
  have hstart : Fits settings .start r₀ := .of_create far hcreate
  constructor
  · intro s r hr
    have hfits := hr.fits hstart
    obtain ⟨c, hc, hsame, hattended, hstands, hgreets⟩ := hfits.stands
    have hstanding := hfits.tended.standing hc
    refine ⟨c, hc, ?_, ?_, fun hreach => ?_, fun hsend f hf => (hgreets hsend).first_frame hf⟩
    · rintro frames e rest rfl hunread
      have hread : r.read = 0 := hfits.early trivial
      rw [unread_eq hc, hread, List.drop_zero] at hunread
      exact ⟨hread, hstanding.first_event hunread⟩
    · rintro e rfl
      exact hfits.expected
    · have hwhole := hfits.tended.not_cutOff hc (hsame ▸ hreach)
      constructor
      · rintro o rfl
        exact hstanding.terminal_event (hstands hwhole)
      · rintro outcome rfl hlast
        exact told_of_attended hc hattended hwhole hstands.1 hlast
  · intro behaviour hreach
    obtain ⟨c, -, hb, -⟩ := Bridge.find?_create settings.connection.sessionId hcreate
    have hconfig : r₀.bridge.config = service := by
      change b.config = service
      rw [hb]
    rw [← hconfig] at hreach ⊢
    exact Reaches.run hstart behaviour hreach

/-- A probe that does not wait for the far end to close. -/
def hastyProbe : ProbeSettings where
  connection := { sessionId := "a", host := "far" }
  stream := {}
  sendStart := true
  input := "audio.raw"
  waitSecs := 0

/-- That probe at the start, with a bridge that has its connection. -/
def hastyStart (b : Bridge) : ProbeRun Unit := { bridge := b, id := "a", far := () }

/-- A far end that says nothing. -/
def mute : FarEndBehaviour Unit := fun _ _ => ([], ())

/-- At such a far end the probe closes the connection itself, and reports that. -/
theorem probe_reports_real_outcome_mute :
    ∃ (b : Bridge) (r : ProbeRun Unit) (c : Connection) (e : EventKind),
      ({ config := {} } : Bridge).create "a" hastyProbe.connection none = .ok b ∧
      ProbeRun.Reaches hastyProbe (some [1, 2, 3]) (hastyStart b) (.done (.ok .closedGracefully)) r ∧
      r.connection? = some c ∧ c.events.filter (·.isTerminal) = [e] ∧
      e.outcome? = some .closedGracefully := by
  have hreport : (({ config := {} } : Bridge).create "a" hastyProbe.connection none).toOption.map
      (fun b => let run := (hastyStart b).run mute hastyProbe {} (some [1, 2, 3])
        (run.1.toOption, decide (run.2.bridge.ClockReaches hastyProbe.connection.profile))) =
        some (some .closedGracefully, true) := by decide +kernel
  cases hcreate : ({ config := {} } : Bridge).create "a" hastyProbe.connection none with
  | error e =>
    rw [hcreate] at hreport
    cases hreport
  | ok b =>
    rw [hcreate] at hreport
    obtain ⟨hanswer, hclock⟩ := Prod.mk.inj (Option.some.inj hreport)
    have hreach := of_decide_eq_true hclock
    obtain ⟨hcourses, hrun⟩ :=
      probe_reports_real_outcome hastyProbe {} {} (some [1, 2, 3]) () b hcreate
    have hdone : ProbeRun.Reaches hastyProbe (some [1, 2, 3]) (hastyStart b)
        (.done ((hastyStart b).run mute hastyProbe {} (some [1, 2, 3])).1) _ := hrun mute hreach
    cases hresult : ((hastyStart b).run mute hastyProbe {} (some [1, 2, 3])).1 with
    | error e =>
      rw [hresult] at hanswer
      cases hanswer
    | ok o =>
      rw [hresult] at hanswer hdone
      cases hanswer
      obtain ⟨c, hc, -, -, hend, -⟩ := hcourses _ _ hdone
      obtain ⟨e, he, ho⟩ := (hend hreach).1 .closedGracefully rfl
      exact ⟨b, _, c, e, rfl, hdone, hc, he, ho⟩

end VoiceBridge
