import VoiceBridge.Proofs.Message.History
import VoiceBridge.Proofs.Run.Recorded

/-!
# What arrives is delivered

The fragments that a driver takes in while its connection is connected decide which texts and which
binary messages are delivered. `deliveries` reads them off the fragments, message by message, with the
answers of `Assembly.verdicts`; `Fed` compares that with the events of the connection and with the
assembly of its driver.

A fragment taken in on a closing connection is dropped and leaves the assembly empty, which does no
harm: such a connection never delivers again.
-/

namespace VoiceBridge

namespace Text

theorem ofUtf8?_eq_some_iff {bytes : Bytes} {s : String} : ofUtf8? bytes = some s ↔ bytes = utf8 s := by
  rw [ofUtf8?, String.fromUTF8?]
  constructor
  · intro h
    split at h
    · rw [Option.some.injEq] at h
      subst h
      rfl
    · cases h
  · rintro rfl
    have hbytes : (⟨(utf8 s).toArray⟩ : ByteArray) = s.toByteArray := by
      rw [utf8, Array.toArray_toList]
      rfl
    rw [hbytes, dif_pos s.isValidUTF8]
    rfl

theorem ofUtf8?_eq_none_iff {bytes : Bytes} : ofUtf8? bytes = none ↔ ∀ s, bytes ≠ utf8 s := by
  rw [Option.eq_none_iff_forall_ne_some]
  exact forall_congr' fun s => not_congr ofUtf8?_eq_some_iff

end Text

/-- Texts and binary messages. -/
def EventKind.isIncoming : EventKind → Bool
  | .message _ | .binary _ => true
  | _ => false

theorem EventKind.isIncoming_of_outcome? {e : EventKind} {o : TerminalOutcome}
    (h : e.outcome? = some o) : e.isIncoming = false := by
  cases e <;> first | rfl | cases h

/-- A text is delivered if its bytes are the UTF-8 form of one, and as that one. -/
theorem Message.events_of_text {m : Message} (h : m.kind = .text) (bidirectional : Bool) :
    (∀ s, m.events bidirectional = [.message s] ↔ m.payload = Text.utf8 s) ∧
      (m.events bidirectional = [] ↔ ∀ s, m.payload ≠ Text.utf8 s) := by
  have hevents : m.events bidirectional = ((Text.ofUtf8? m.payload).map .message).toList := by
    rw [events, h]
    cases Text.ofUtf8? m.payload <;> rfl
  rw [hevents, ← Text.ofUtf8?_eq_none_iff]
  refine ⟨fun s => ?_, ?_⟩
  · rw [← Text.ofUtf8?_eq_some_iff]
    cases Text.ofUtf8? m.payload <;> simp
  · cases Text.ofUtf8? m.payload <;> simp

theorem Message.events_of_binary {m : Message} (h : m.kind = .binary) (bidirectional : Bool) :
    m.events bidirectional = if bidirectional then [.binary m.payload] else [] := by
  rw [events, h]

theorem PushOutcome.filter_events (o : PushOutcome) (bidirectional : Bool) :
    (o.events bidirectional).filter (·.isIncoming) = o.events bidirectional := by
  cases o with
  | complete m =>
    obtain ⟨kind, payload⟩ := m
    cases kind with
    | text =>
      simp only [events, Message.events]
      cases Text.ofUtf8? payload <;> rfl
    | binary => cases bidirectional <;> rfl
  | _ => rfl

def Arrival.fragment? : Arrival → Option Fragment
  | .fragment f => some f
  | _ => none

theorem Arrival.fragment?_of_ending? {a : Arrival} {e : Ending} (h : a.ending? = some e) :
    a.fragment? = none := by
  cases a <;> first | rfl | cases h

/-- What the fragments that are taken in on a connected connection deliver. -/
def deliveries (limits : AssemblyLimits) (bidirectional : Bool) (fs : List Fragment) :
    List EventKind :=
  (Assembly.verdicts limits [] fs).flatMap (·.events bidirectional)

theorem deliveries_concat (limits : AssemblyLimits) (bidirectional : Bool) (fs : List Fragment)
    (f : Fragment) :
    deliveries limits bidirectional (fs ++ [f]) =
      deliveries limits bidirectional fs ++
        (Assembly.verdict limits fs f).events bidirectional := by
  simp [deliveries, Assembly.verdicts_append, Assembly.verdicts]

namespace Connection

variable {c c' : Connection} {history : List Fragment}

/-- The fragments that have left the wire. -/
def fragmentsLeft (c c' : Connection) : List Fragment :=
  (c.wire.inbound.take (c.wire.inbound.length - c'.wire.inbound.length)).filterMap (·.fragment?)

/-- The fragments that the driver of a connected connection has taken in. -/
def fragmentsTaken (c c' : Connection) : List Fragment :=
  if c.isConnected then c.fragmentsLeft c' else []

theorem fragmentsLeft_of_le (h : c.wire.inbound.length ≤ c'.wire.inbound.length) :
    c.fragmentsLeft c' = [] := by
  rw [fragmentsLeft, Nat.sub_eq_zero_of_le h]
  rfl

theorem fragmentsLeft_of_cons {a : Arrival} (h : c.wire.inbound = a :: c'.wire.inbound) :
    c.fragmentsLeft c' = a.fragment?.toList := by
  rw [fragmentsLeft, h, List.length_cons, Nat.add_sub_cancel_left]
  cases ha : a.fragment? <;> simp [ha]

/-- The wire has not been opened yet. -/
def isUnopened (c : Connection) : Bool :=
  match c.phase with
  | .absent | .dialling .. => true
  | .live _ | .over => false

/-- What the connection has delivered is what the fragments taken in give, and the assembly of a
connected one is where they have brought it. -/
structure Fed (c : Connection) (history : List Fragment) : Prop where
  events : c.events.filter (·.isIncoming) =
    deliveries c.config.limits c.config.profile.bidirectional history
  unopened : c.isUnopened = true → history = []
  session : ∀ s, c.phase = .live s → c.state = .connected → s.assembly.limits = c.config.limits ∧
    Assembly.Stands c.config.limits (Fragment.lastMessage? history) s.assembly.state

/-- Nothing is taken in and nothing of that kind is delivered. -/
theorem Fed.keep (h : c.Fed history) (hconfig : c'.config = c.config)
    (hevents : c'.events.filter (·.isIncoming) = c.events.filter (·.isIncoming))
    (hunopened : c'.isUnopened = true → c.isUnopened = true)
    (hsession : ∀ s', c'.phase = .live s' → c'.state = .connected →
      ∃ s, c.phase = .live s ∧ c.state = .connected ∧ s'.assembly = s.assembly) :
    c'.Fed history := by
  refine ⟨by rw [hevents, hconfig, h.events], fun hu => h.unopened (hunopened hu), ?_⟩
  intro s' hp' hs'
  obtain ⟨s, hp, hs, hassembly⟩ := hsession s' hp' hs'
  rw [hassembly, hconfig]
  exact h.session s hp hs

theorem Fed.congr (h : c.Fed history) (hconfig : c'.config = c.config)
    (hevents : c'.events = c.events) (hphase : c'.phase = c.phase) (hstate : c'.state = c.state) :
    c'.Fed history := by
  have hunopened : c'.isUnopened = c.isUnopened := by simp [isUnopened, hphase]
  exact h.keep hconfig (by rw [hevents]) (fun hu => hunopened ▸ hu)
    (fun s hp hs => ⟨s, hphase ▸ hp, hstate ▸ hs, rfl⟩)

theorem Fed.over (h : c.Fed history) (hp : c'.phase = .over) (hconfig : c'.config = c.config)
    (hevents : c'.events.filter (·.isIncoming) = c.events.filter (·.isIncoming)) :
    c'.Fed history :=
  h.keep hconfig hevents (fun hu => by simp [isUnopened, hp] at hu)
    (fun s' hp' => by rw [hp] at hp'; cases hp')

theorem filter_finished {final : ConnectionState} {last : EventKind} {o : TerminalOutcome}
    (log : List LogLine) (h : last.outcome? = some o) :
    (c.finished final last o log).events.filter (·.isIncoming) =
      c.events.filter (·.isIncoming) := by
  simp [finished, EventKind.isIncoming_of_outcome? h]

theorem filter_turned (c : Connection) :
    (c.events ++ c.notices).filter (·.isIncoming) = c.events.filter (·.isIncoming) := by
  rw [List.filter_append, notices]
  split <;> exact List.append_nil _

theorem attempt_frame {ctx : LoopContext} {s : Session} {f : OutboundFrame}
    {before after : Connection} (h : Attempt ctx c s f before after) :
    before.config = c.config ∧ before.wire = c.wire ∧
      before.events.filter (·.isIncoming) = c.events.filter (·.isIncoming) := by
  cases h with
  | ping => exact ⟨rfl, rfl, rfl⟩
  | _ => exact ⟨rfl, rfl, filter_turned c⟩

/-- What a step of the driver does to what was delivered. A fragment that leaves the wire does not end
the connection and delivers, on a connected one only, what its history gives. -/
structure Feeds (c : Connection) (history : List Fragment) (c' : Connection) : Prop where
  fed : c'.Fed (history ++ c.fragmentsTaken c')
  left : ∀ f ∈ c.fragmentsLeft c', c'.state = c.state ∧ c'.events = c.events ++
    if c.isConnected then
      (Assembly.verdict c.config.limits history f).events c.config.profile.bidirectional
    else []

theorem Feeds.of_untouched (h : c'.Fed history) (hleft : c.fragmentsLeft c' = []) :
    c.Feeds history c' := by
  have hnone : c.fragmentsTaken c' = [] := by simp [fragmentsTaken, hleft]
  refine ⟨by rwa [hnone, List.append_nil], fun f hf => ?_⟩
  rw [hleft] at hf
  cases hf

/-- The driver goes on with the same assembly. -/
theorem Fed.goOn {s s' : Session} (h : c.Fed history) (hp : c.phase = .live s)
    (hp' : c'.phase = .live s') (hassembly : s'.assembly = s.assembly) (hstate : c'.state = c.state)
    (hconfig : c'.config = c.config)
    (hevents : c'.events.filter (·.isIncoming) = c.events.filter (·.isIncoming)) :
    c'.Fed history := by
  refine h.keep hconfig hevents (fun hu => by simp [isUnopened, hp'] at hu) ?_
  intro s₁ hp₁ hs₁
  rw [hp'] at hp₁
  cases hp₁
  exact ⟨s, hp, hstate ▸ hs₁, hassembly⟩

theorem Fed.sent {ctx : LoopContext} {s : Session} {f : OutboundFrame} {before after : Connection}
    (h : c.Fed history) (hp : c.phase = .live s) (ha : Attempt ctx c s f before after)
    (log : List LogLine) :
    ({ after with wire := c.wire.sending ctx.network f, log } : Connection).Fed history := by
  cases ha with
  | text | audio => exact h.goOn hp hp rfl rfl rfl (filter_turned c)
  | close => exact h.goOn hp rfl rfl rfl rfl (filter_turned c)
  | ping => exact h.goOn hp rfl rfl rfl rfl rfl

/-- The assembly of a connected connection answers a fragment as the history tells. -/
theorem Fed.answer {s : Session} (h : c.Fed history) (hp : c.phase = .live s)
    (hs : c.state = .connected) (f : Fragment) :
    (s.assembly.push f).1 = Assembly.verdict c.config.limits history f ∧
      Assembly.Stands c.config.limits (Fragment.lastMessage? (history ++ [f]))
        (s.assembly.push f).2.state := by
  obtain ⟨hlimits, hstands⟩ := h.session s hp hs
  rw [← hlimits] at hstands ⊢
  exact Assembly.push_eq_verdict hstands f

theorem Fed.taken {s s' : Session} {f : Fragment} (h : c.Fed history) (hp : c.phase = .live s)
    (hs : c.state = .connected) (hp' : c'.phase = .live s')
    (hassembly : s'.assembly = (s.assembly.push f).2) (hconfig : c'.config = c.config)
    (hevents : c'.events =
      c.events ++ (s.assembly.push f).1.events c.config.profile.bidirectional) :
    c'.Fed (history ++ [f]) := by
  obtain ⟨hanswer, hstands⟩ := h.answer hp hs f
  refine ⟨?_, fun hu => by simp [isUnopened, hp'] at hu, ?_⟩
  · rw [hevents, hanswer, hconfig, List.filter_append, h.events, PushOutcome.filter_events,
      deliveries_concat]
  · intro s₁ hp₁ _
    rw [hp'] at hp₁
    cases hp₁
    rw [hassembly, hconfig, Assembly.limits_push]
    exact ⟨(h.session s hp hs).1, hstands⟩

theorem Fed.progress {ctx : LoopContext} (h : c.Fed history) (hp : Progress ctx c c') :
    c.Feeds history c' := by
  cases hp with
  | refused e log phase =>
    exact .of_untouched (h.over rfl rfl (filter_finished log rfl)) (fragmentsLeft_of_le (Nat.le_refl _))
  | opened log phase =>
    have hnil : history = [] := h.unopened (by simp [isUnopened, phase])
    have hevents : (c.events ++ [EventKind.connectSuccess]).filter (·.isIncoming) =
        c.events.filter (·.isIncoming) := by
      rw [List.filter_append]
      exact List.append_nil _
    subst hnil
    refine .of_untouched ⟨hevents.trans h.events, fun hu => by simp [isUnopened] at hu, ?_⟩
      (fragmentsLeft_of_le (Nat.le_refl _))
    intro s hlive _
    cases hlive
    exact ⟨rfl, .nothing⟩
  | spent phase =>
    exact .of_untouched (h.goOn phase phase rfl rfl rfl rfl) (fragmentsLeft_of_le (Nat.le_refl _))
  | quiet log phase =>
    exact .of_untouched (h.goOn phase phase rfl rfl rfl (filter_turned c))
      (fragmentsLeft_of_le (Nat.le_refl _))
  | sent log phase attempt =>
    refine .of_untouched (h.sent phase attempt log) (fragmentsLeft_of_le ?_)
    simp [Wire.sending]
  | lost log phase attempt _ _ outcome =>
    obtain ⟨hconfig, hwire, hevents⟩ := attempt_frame attempt
    refine .of_untouched (h.over rfl hconfig ((filter_finished log outcome).trans hevents)) ?_
    exact fragmentsLeft_of_le (Nat.le_of_eq (congrArg (·.inbound.length) hwire.symm))
  | discarded phase inbound state =>
    have hclosing : c.isConnected = false := by simp [isConnected, state]
    refine ⟨?_, fun _ _ => ⟨rfl, by simp [hclosing]⟩⟩
    rw [fragmentsTaken, hclosing, if_neg Bool.false_ne_true, List.append_nil]
    refine h.keep rfl rfl (fun hu => by simp [isUnopened] at hu) (fun s' _ hs => ?_)
    rw [state] at hs
    cases hs
  | @taken s f rest log phase inbound state =>
    have hconnected : c.isConnected = true := by simp [isConnected, state]
    refine ⟨?_, fun g hg => ⟨rfl, ?_⟩⟩
    · rw [fragmentsTaken, if_pos hconnected, fragmentsLeft_of_cons inbound]
      exact h.taken phase state rfl rfl rfl rfl
    · rw [fragmentsLeft_of_cons inbound] at hg
      have hfg : g = f := by simpa [Arrival.fragment?] using hg
      rw [if_pos hconnected, hfg, ← (h.answer phase state f).1]
  | heard phase inbound =>
    refine .of_untouched (h.goOn phase rfl rfl rfl rfl rfl) ?_
    rw [fragmentsLeft_of_cons inbound]
    rfl
  | ended log phase inbound ending _ outcome =>
    refine .of_untouched (h.over rfl rfl (filter_finished log outcome)) ?_
    rw [fragmentsLeft_of_cons inbound, Arrival.fragment?_of_ending? ending]
    rfl
  | expired log phase _ _ outcome =>
    exact .of_untouched (h.over rfl rfl (filter_finished log outcome))
      (fragmentsLeft_of_le (Nat.le_refl _))
  | broken => exact .of_untouched (h.over rfl rfl rfl) (fragmentsLeft_of_le (Nat.le_refl _))

/-- A call leaves the driver and what was delivered alone. -/
theorem Fed.frame {q q' : Requests} (h : c.Fed history) (hf : CallFrame c q c' q') :
    c'.Fed history := by
  rcases hf.state with hsame | ⟨_, hclosing⟩
  · exact h.congr hf.config hf.events hf.phase hsame
  · refine ⟨by rw [hf.events, hf.config, h.events], ?_, fun s _ hs => ?_⟩
    · simpa [isUnopened, hf.phase] using h.unopened
    · rw [hclosing] at hs
      cases hs

theorem Fed.takenUp {b : Bridge} (hstanding : c.Standing false) (h : c.Fed history) :
    (b.takenUp c).Fed history := by
  obtain ⟨d, _, _, heq, _, hcases⟩ := b.takenUp_cases c
  rw [heq]
  rcases hcases with rfl | ⟨_, hidle, rfl⟩
  · exact h.congr rfl rfl rfl rfl
  · have habsent := (hstanding.of_idle hidle).1
    exact h.keep rfl rfl (fun _ => by simp [isUnopened, habsent]) (fun s hp => by cases hp)

theorem Fed.cut {waits : List Wait} (h : c.Fed history) :
    ({ c with waits, phase := if c.isDriven then .over else c.phase } : Connection).Fed history := by
  cases hd : c.isDriven with
  | true => exact h.over rfl rfl rfl
  | false => exact h.congr rfl rfl rfl rfl

end Connection

namespace Bridge

/-- The fragments that a move takes in for the connection of a name while that is connected. -/
def takenIn (id : String) (b : Bridge) (m : Move) : List Fragment :=
  match m, b.find? id, (b.move m).find? id with
  | .errand _ _, some c, some c' => c.fragmentsTaken c'
  | _, _, _ => []

theorem takenIn_of_not_errand {id : String} {b : Bridge} {m : Move} (h : ∀ n e, m ≠ .errand n e) :
    b.takenIn id m = [] := by
  cases m with
  | errand n e => exact absurd rfl (h n e)
  | _ => rfl

theorem takenIn_errand {id : String} {b : Bridge} {n : Nat} {e : Errand} {c c' : Connection}
    (hc : b.find? id = some c) (hc' : (b.move (.errand n e)).find? id = some c') :
    b.takenIn id (.errand n e) = c.fragmentsTaken c' := by
  simp [takenIn, hc, hc']

/-- An errand of a driver, also one that concerns another connection or nothing at all. -/
theorem feeds_errand {b : Bridge} {n : Nat} {e : Errand} {c c' : Connection} {history : List Fragment}
    (h : c.Fed history) (hchange : Change b c (.errand n e) c') : c.Feeds history c' := by
  cases hchange with
  | progress running progress => exact h.progress progress
  | spared => exact .of_untouched h (Connection.fragmentsLeft_of_le (Nat.le_refl _))

theorem recorded_takenIn (id : String) : Recorded id (takenIn id) Connection.Fed where
  unnamed {b m} h := by
    unfold takenIn
    split
    · simp_all
    · rfl
  create h := by
    obtain ⟨_, _, rfl⟩ := Connection.create_eq h
    exact ⟨rfl, fun _ => rfl, fun s hp => by cases hp⟩
  change {b m c c' seen} hc hc' hstanding _ hchange h := by
    by_cases herrand : ∃ n e, m = .errand n e
    · obtain ⟨n, e, rfl⟩ := herrand
      rw [takenIn_errand hc hc']
      exact (feeds_errand h hchange).fed
    · rw [takenIn_of_not_errand fun n e hm => herrand ⟨n, e, hm⟩, List.append_nil]
      cases hchange with
      | call => exact h.frame (.perform _ _ _)
      | unheld | other | spared => exact h
      | @far call =>
        obtain ⟨_, _, hfar⟩ := c.farCall_eq call
        rw [hfar]
        exact h.congr rfl rfl rfl rfl
      | takenUp running =>
        rw [running] at hstanding
        exact h.takenUp hstanding
      | progress => exact absurd ⟨_, _, rfl⟩ herrand
      | cut => exact h.cut

end Bridge

/-- The texts and binary messages delivered are those that the fragments taken in on the connected
connection make up. No fragment ends the connection, and none delivers anything once it closes. -/
theorem inbound_delivery (config : ServiceConfig) (moves : List Move) (id : String) (c : Connection)
    (hc : (Bridge.play { config } moves).find? id = some c) :
    let b := Bridge.play { config } moves
    let taken := Bridge.record (Bridge.takenIn id) { config } moves
    let bidirectional := c.config.profile.bidirectional
    c.events.filter (·.isIncoming) = deliveries c.config.limits bidirectional taken ∧
    (∀ n e c', (b.move (.errand n e)).find? id = some c' → ∀ f ∈ c.fragmentsLeft c',
      c'.state = c.state ∧ c'.events = c.events ++
        if c.isConnected then
          (Assembly.verdict c.config.limits taken f).events bidirectional
        else []) ∧
    ∀ m : Message,
      (m.kind = .text → (∀ s, m.events bidirectional = [.message s] ↔ m.payload = Text.utf8 s) ∧
        (m.events bidirectional = [] ↔ ∀ s, m.payload ≠ Text.utf8 s)) ∧
      (m.kind = .binary →
        m.events bidirectional = if bidirectional then [.binary m.payload] else []) := by
  have hfed := (Bridge.recorded_takenIn id).play config moves hc
  refine ⟨hfed.events, fun n e c' hc' => ?_, fun m => ⟨fun h => m.events_of_text h _,
    fun h => m.events_of_binary h _⟩⟩
  have hchange := Bridge.change_of_find? (Connection.standing_kept.play config moves) hc hc'
  exact (Bridge.feeds_errand hfed hchange).left

/-- A text cut inside its character, a text that is none, one cut off by a binary message, and a
fragment that comes when the connection closes. -/
def arriving : List Move :=
  let arrivals : List Arrival := [.fragment ⟨.text, [0xC3], true, false, 1⟩,
    .fragment ⟨.text, [0xA9], false, true, 0⟩, .fragment ⟨.text, [0xC3], true, true, 0⟩,
    .fragment ⟨.text, [0x61], true, false, 0⟩, .fragment ⟨.binary, [1, 2], true, true, 0⟩,
    .fragment ⟨.text, [0x62], true, true, 0⟩]
  [.act (.create "a" { sessionId := "a", host := "far", profile := { bidirectional := true } } none),
    .act (.call "a" .connect), .loop, .wait 1, .errand 0 .dial, .act (.far "a" (.send arrivals)),
    .errand 0 .arrival, .errand 0 .arrival, .errand 0 .arrival, .errand 0 .arrival, .errand 0 .arrival,
    .act (.call "a" .close), .errand 0 .arrival]

theorem inbound_delivery_arriving :
    ∃ c, (Bridge.play { config := {} } arriving).find? "a" = some c ∧
      c.events.filter (·.isIncoming) =
        deliveries c.config.limits c.config.profile.bidirectional
          (Bridge.record (Bridge.takenIn "a") { config := {} } arriving) ∧
      c.events.filter (·.isIncoming) = [.message "é", .binary [1, 2]] := by
  have hsome : ((Bridge.play { config := {} } arriving).find? "a").isSome = true := by
    decide +kernel
  have hevents : ∀ c ∈ (Bridge.play { config := {} } arriving).roster,
      c.events.filter (·.isIncoming) = [.message "é", .binary [1, 2]] := by
    decide +kernel
  obtain ⟨c, hc⟩ := Option.isSome_iff_exists.mp hsome
  exact ⟨c, hc, (inbound_delivery {} arriving "a" c hc).1,
    hevents c (List.mem_of_find?_eq_some hc)⟩

end VoiceBridge
