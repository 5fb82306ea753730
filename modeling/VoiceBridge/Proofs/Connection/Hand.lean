import VoiceBridge.Proofs.Connection.Wiring

/-!
# What a driver has in hand

A writable turn has several parts, and so has the taking in of a fragment: the state of the connection is
looked at, and what is done about it comes after. Between two parts others may call on the connection, from
a callback of the turn itself or from elsewhere. `Hand` says what the driver has in hand meanwhile, `look?`
and `receive?` how such work begins, and `goOn` how it goes on. Done without a pause, the parts of a turn are
the turn (`goOnFor_look?`), and those of a fragment its arrival (`goOnFor_receive?`).

`Share` lists what a part makes of a connection and of what is in hand, and `Grip` says what holds of the
connection meanwhile.
-/

namespace VoiceBridge

/-- What a driver has in hand between two parts of its work. -/
inductive Hand where
  /-- A turn has begun and found the connection in this state. -/
  | found (state : ConnectionState)
  /-- The overrun was reported, if there was one to report. -/
  | noted (state : ConnectionState)
  /-- No text waited. -/
  | passed (state : ConnectionState)
  | text (f : OutboundFrame)
  | audio (bytes : Bytes)
  | fragment (f : Fragment)
  deriving Repr, DecidableEq

/-- The state that the turn under way found. -/
def Hand.found? : Hand → Option ConnectionState
  | found state | noted state | passed state => some state
  | text _ | audio _ | fragment _ => none

/-- The parts of a driver's work: two with which it begins, and the others. -/
inductive Part where
  | look
  | receive
  | goOn
  deriving Repr, DecidableEq

namespace Connection

/-- A turn begins. -/
def look? (ctx : LoopContext) (c : Connection) : Option (Connection × Option Hand) :=
  match c.phase with
  | .live s =>
    if s.inReach ctx && c.writable then
      let open? := !s.closeSent && (c.state == .connected || c.state == .disconnecting)
      some ({ c with writable := false }, if open? then some (.found c.state) else none)
    else none
  | .absent | .dialling .. | .over => none

/-- A fragment is taken from the wire. -/
def receive? (ctx : LoopContext) (c : Connection) : Option (Connection × Option Hand) :=
  match c.phase, c.wire.inbound with
  | .live s, .fragment f :: rest =>
    if s.inReach ctx then
      let c := { c with wire := { c.wire with inbound := rest } }
      let s := { s with lastHeard := ctx.now }
      if c.state = .disconnecting then
        some ({ c with phase := .live { s with assembly := s.assembly.clear } }, none)
      else some ({ c with phase := .live s }, some (.fragment f))
    else none
  | _, _ => none

/-- The driver goes on with what it has in hand. -/
def goOn (ctx : LoopContext) (s : Session) (c : Connection) : Hand → Connection × Option Hand
  | .found found => (c.reportOverrun found, some (.noted found))
  | .noted found =>
    match c.takeText with
    | (some f, c) => (c, some (.text f))
    | (none, c) => (c, some (.passed found))
  | .passed found =>
    if found = .disconnecting then (afterSend ctx (c.sendClose ctx s), none)
    else
      match c.audio.takePending with
      | (some bytes, audio) => ({ c with audio }, some (.audio bytes))
      | (none, _) => (c, none)
  | .text f => (afterSend ctx (c.sendText ctx f), none)
  | .audio bytes => (afterSend ctx (c.transmit ctx.network (.binary bytes)), none)
  | .fragment f => (c.pushFragment s f, none)

/-- A driver that is at work goes on. -/
def goOn? (ctx : LoopContext) (h : Hand) (c : Connection) : Option (Connection × Option Hand) :=
  match c.phase with
  | .live s => some (c.goOn ctx s h)
  | .absent | .dialling .. | .over => none

/-- A part of the work, if it can be done with what is in hand. -/
def part? (ctx : LoopContext) (c : Connection) (hand : Option Hand) (p : Part) :
    Option (Connection × Option Hand) :=
  match p, hand with
  | .look, none => c.look? ctx
  | .receive, none => c.receive? ctx
  | .goOn, some h => c.goOn? ctx h
  | _, _ => none

/-- Go on without a pause, for so many parts at most. -/
def goOnFor (ctx : LoopContext) : Nat → Connection × Option Hand → Connection × Option Hand
  | n + 1, (c, some h) => goOnFor ctx n ((c.goOn? ctx h).getD (c, none))
  | _, (c, hand) => (c, hand)

variable {ctx : LoopContext} {c c' : Connection} {s : Session}

theorem goOn?_of_live (hp : c.phase = .live s) (h : Hand) : c.goOn? ctx h = some (c.goOn ctx s h) := by
  simp only [goOn?, hp]

theorem goOnFor_none (n : Nat) (c : Connection) : goOnFor ctx n (c, none) = (c, none) := by
  cases n <;> rfl

theorem goOnFor_some (hp : c.phase = .live s) (n : Nat) (h : Hand) :
    goOnFor ctx (n + 1) (c, some h) = goOnFor ctx n (c.goOn ctx s h) := by
  rw [goOnFor, goOn?_of_live hp, Option.getD_some]

/-- What a turn does after it has reported an overrun. -/
theorem goOnFor_noted (hp : c.phase = .live s) (found : ConnectionState) :
    goOnFor ctx 3 (c, some (.noted found)) =
      (afterSend ctx (c.takeText.2.sendNext ctx s found c.takeText.1), none) := by
  rw [goOnFor_some hp]
  cases hout : c.outbox with
  | cons f rest =>
    have htake : c.takeText = (some f, { c with outbox := rest }) := by simp [takeText, hout]
    rw [goOn, htake]
    dsimp only
    rw [goOnFor_some (c := { c with outbox := rest }) hp]
    rfl
  | nil =>
    have htake : c.takeText = (none, c) := by
      unfold takeText
      rw [hout]
      exact congrArg (none, { c with outbox := · }) hout.symm
    rw [goOn, htake]
    dsimp only
    rw [goOnFor_some hp, goOn, sendNext]
    split
    · rfl
    · unfold sendAudio
      generalize c.audio.takePending = taken
      obtain ⟨bytes?, audio⟩ := taken
      cases bytes? with
      | none => rfl
      | some bytes =>
        dsimp only
        rw [goOnFor_some (c := { c with audio }) hp]
        rfl

/-- The parts of a turn, done without a pause, are the turn. -/
theorem goOnFor_look? (h : c.Standing false) :
    (c.look? ctx).map (goOnFor ctx 4) = (c.seeTo? ctx .turn).map fun c' => (c', none) := by
  cases hp : c.phase with
  | live s =>
    have ho := h.outcome_of_isDriven (by simp [isDriven, hp])
    simp only [look?, seeTo?, attend?, hp]
    cases hreach : s.inReach ctx with
    | false => simp
    | true =>
      cases hw : c.writable with
      | false => simp
      | true =>
        simp only [Bool.and_self, if_true, Option.map_some, Option.some_inj, turn]
        cases hc : s.closeSent with
        | true => simp [goOnFor_none, afterSend, hp]
        | false =>
          have hs : (c.state == .connected || c.state == .disconnecting) = true := by
            rcases h.state_of_live hp with hs | hs <;> simp [hs]
          simp only [hs, Bool.not_true, Bool.not_false, Bool.and_self, Bool.or_self, if_true,
            Bool.false_eq_true, if_false]
          rw [goOnFor_some rfl, goOn, ← hp]
          obtain ⟨log, hreport⟩ := reportOverrun_eq (c := { c with writable := false }) ho c.state
          rw [hreport]
          exact goOnFor_noted (by exact hp) c.state
  | _ => simp [look?, seeTo?, dial?, hp]

/-- Where a fragment is put does not depend on the session that is replaced. -/
theorem pushFragment_withPhase (c : Connection) (phase : Phase) (s : Session) (f : Fragment) :
    { c with phase }.pushFragment s f = c.pushFragment s f := by
  unfold pushFragment noteInterrupted
  cases s.assembly.interrupted? f <;> rfl

/-- A fragment that is taken from the wire and put to those before it has arrived. -/
theorem goOnFor_receive? {f : Fragment} {rest : List Arrival} (hin : c.wire.inbound = .fragment f :: rest) :
    (c.receive? ctx).map (goOnFor ctx 1) = (c.seeTo? ctx .arrival).map fun c' => (c', none) := by
  cases hp : c.phase with
  | live s =>
    simp only [receive?, seeTo?, attend?, hp, hin, takeIn, takeFragment]
    cases hreach : s.inReach ctx with
    | false => simp
    | true =>
      by_cases hs : c.state = .disconnecting
      · simp [hs, goOnFor]
      · simp only [if_true, if_neg hs, Option.map_some, Option.some_inj]
        rw [goOnFor_some rfl, goOn, goOnFor_none]
        have hpush := pushFragment_withPhase { c with wire := { c.wire with inbound := rest } }
        exact congrArg (·, none) ((hpush _ _ f).trans (hpush (.live s) _ f).symm)
  | _ => simp [receive?, seeTo?, dial?, hp]

/-! ### What a part makes of the connection -/

/-- The frame that is sent next with something in hand, the connection before the attempt and, but for the
wire, the connection after a success. -/
inductive Issue (ctx : LoopContext) (c : Connection) (s : Session) :
    Hand → OutboundFrame → Connection → Connection → Prop
  | text (f : OutboundFrame) :
      Issue ctx c s (.text f) f c { c with writable := c.writable || c.hasMore }
  | audio (bytes : Bytes) : Issue ctx c s (.audio bytes) (.binary bytes) c c
  | close : Issue ctx c s (.passed .disconnecting) .close { c with audio := c.audio.reset }
      { c with
        audio := c.audio.reset
        phase := .live { s with
          closeSent := true, closeDeadline := some (ctx.now + ctx.config.closeTimeout.nanos) } }

/-- What a part makes of the connection, and what is in hand before and after it. -/
inductive Share (ctx : LoopContext) (c : Connection) : Option Hand → Connection → Option Hand → Prop
  | looked {s : Session} (phase : c.phase = .live s) :
      Share ctx c none { c with writable := false }
        (if s.closeSent then none else some (.found c.state))
  /-- A closing connection takes in nothing more. -/
  | discarded {s : Session} {rest : List Arrival} (phase : c.phase = .live s)
      (state : c.state = .disconnecting) :
      Share ctx c none { c with
        wire := { c.wire with inbound := rest }
        phase := .live { s with lastHeard := ctx.now, assembly := s.assembly.clear } } none
  | taken {s : Session} {f : Fragment} {rest : List Arrival} (phase : c.phase = .live s)
      (state : c.state = .connected) :
      Share ctx c none { c with
        wire := { c.wire with inbound := rest }, phase := .live { s with lastHeard := ctx.now } }
        (some (.fragment f))
  | noticed {found : ConnectionState} (log : List LogLine) :
      Share ctx c (some (.found found)) { c with
        overrunNotice := c.overrunNotice && !(found == .connected)
        events := c.events ++ if found == .connected && c.overrunNotice then [.bufferOverrun] else []
        log } (some (.noted found))
  | picked {found : ConnectionState} {f : OutboundFrame} {rest : List OutboundFrame}
      (outbox : c.outbox = f :: rest) :
      Share ctx c (some (.noted found)) { c with outbox := rest } (some (.text f))
  | passed {found : ConnectionState} (outbox : c.outbox = []) :
      Share ctx c (some (.noted found)) c (some (.passed found))
  | drained {found : ConnectionState} (open? : found ≠ .disconnecting) :
      Share ctx c (some (.passed found)) { c with audio := c.audio.reset } (some (.audio c.audio.pending))
  | nothing {found : ConnectionState} (open? : found ≠ .disconnecting) :
      Share ctx c (some (.passed found)) c none
  | sent {s : Session} {h : Hand} {f : OutboundFrame} {before after : Connection} (log : List LogLine)
      (phase : c.phase = .live s) (issue : Issue ctx c s h f before after) :
      Share ctx c (some h) { after with wire := c.wire.sending ctx.network f, log } none
  /-- A send failed, and with it the connection. -/
  | lost {s : Session} {h : Hand} {f : OutboundFrame} {before after : Connection} {e : Ending}
      {final : ConnectionState} {last : EventKind} {o : TerminalOutcome} (log : List LogLine)
      (phase : c.phase = .live s) (issue : Issue ctx c s h f before after)
      (verdict : e.verdict? c.graceful c.state = some (final, last)) (outcome : last.outcome? = some o) :
      Share ctx c (some h) (before.finished final last o log) none
  | pushed {s : Session} {f : Fragment} (log : List LogLine) (phase : c.phase = .live s) :
      Share ctx c (some (.fragment f)) { c with
        phase := .live { s with assembly := (s.assembly.push f).2 }
        events := c.events ++ (s.assembly.push f).1.events c.config.profile.bidirectional, log } none

theorem share_of_issue {h : Hand} {f : OutboundFrame} {before after : Connection}
    {r : Option LinkError × Connection} (hstanding : c.Standing false) (hp : c.phase = .live s)
    (hissue : Issue ctx c s h f before after) (hr : Outcome ctx.network c.wire f before after r) :
    Share ctx c (some h) (afterSend ctx r) none := by
  have hstate : before.state = c.state := by cases hissue <;> rfl
  have hgraceful : before.graceful = c.graceful := by cases hissue <;> rfl
  have houtcome : before.outcome = none := by
    have ho := hstanding.outcome_of_isDriven (by simp [isDriven, hp])
    cases hissue <;> exact ho
  rcases afterSend_cases (hstate ▸ hstanding.state_of_live hp) houtcome hr with
    ⟨-, log, heq⟩ | ⟨_, _, _, _, log, -, hverdict, hlast, heq⟩
  · rw [heq]
    exact .sent log hp hissue
  · rw [heq]
    rw [hgraceful, hstate] at hverdict
    exact .lost log hp hissue hverdict hlast

theorem share_of_goOn (hstanding : c.Standing false) (hp : c.phase = .live s) (h : Hand) :
    Share ctx c (some h) (c.goOn ctx s h).1 (c.goOn ctx s h).2 := by
  have ho := hstanding.outcome_of_isDriven (by simp [isDriven, hp])
  cases h with
  | found found =>
    obtain ⟨log, hreport⟩ := reportOverrun_eq ho found
    rw [goOn, hreport]
    exact .noticed log
  | noted found =>
    rw [goOn, takeText]
    cases hout : c.outbox with
    | cons f rest => exact .picked hout
    | nil =>
      have hsame : { c with outbox := List.tail [] } = c := congrArg ({ c with outbox := · }) hout.symm
      dsimp only [List.head?]
      rw [hsame]
      exact .passed hout
  | passed found =>
    rw [goOn]
    split
    · rename_i hclosing
      subst hclosing
      exact share_of_issue hstanding hp .close (outcome_sendClose ctx s c)
    · rename_i hopen
      unfold AudioBuffer.takePending
      cases c.audio.hasPending with
      | true => exact .drained hopen
      | false => exact .nothing hopen
  | text f => exact share_of_issue hstanding hp (.text f) (outcome_sendText ctx c f)
  | audio bytes =>
    exact share_of_issue hstanding hp (.audio bytes) (transmit_eq ctx.network c (.binary bytes))
  | fragment f =>
    obtain ⟨log, hpush⟩ := pushFragment_eq ho s f
    rw [goOn, hpush]
    exact .pushed log hp

theorem share_of_look? {hand : Option Hand} (hstanding : c.Standing false)
    (h : c.look? ctx = some (c', hand)) : Share ctx c none c' hand := by
  unfold look? at h
  split at h
  · rename_i s hp
    have hs : (c.state == .connected || c.state == .disconnecting) = true := by
      rcases hstanding.state_of_live hp with hs | hs <;> simp [hs]
    rw [hs, Bool.and_true] at h
    split at h
    · cases h
      have hfound : Share ctx c none _ _ := .looked hp
      cases hclose : s.closeSent <;> simpa [hclose] using hfound
    · cases h
  all_goals cases h

theorem share_of_receive? {hand : Option Hand} (hstanding : c.Standing false)
    (h : c.receive? ctx = some (c', hand)) : Share ctx c none c' hand := by
  unfold receive? at h
  split at h
  · rename_i s f rest hp hin
    split at h
    · dsimp only at h
      split at h
      · rename_i hs
        cases h
        exact .discarded hp hs
      · rename_i hs
        cases h
        exact .taken hp ((hstanding.state_of_live hp).resolve_right hs)
    · cases h
  · cases h

/-- Every part is one of these. -/
theorem share_of_part? {hand hand' : Option Hand} {p : Part} (hstanding : c.Standing false)
    (h : c.part? ctx hand p = some (c', hand')) : Share ctx c hand c' hand' := by
  unfold part? at h
  split at h
  · exact share_of_look? hstanding h
  · exact share_of_receive? hstanding h
  · rename_i h₁
    unfold goOn? at h
    split at h
    · rename_i hp
      have hshare : Share ctx c _ _ _ := share_of_goOn hstanding hp h₁
      rw [Option.some.inj h] at hshare
      exact hshare
    all_goals cases h
  · cases h

theorem Share.id {hand hand' : Option Hand} (h : Share ctx c hand c' hand') : c'.id = c.id := by
  cases h with
  | sent _ _ issue | lost _ _ issue => cases issue <;> rfl
  | _ => rfl

/-! ### What holds meanwhile -/

/-- What holds of a connection while its driver has something in hand. -/
structure Grip (h : Hand) (c : Connection) : Prop where
  live : ∃ s, c.phase = .live s ∧ s.closeSent = false
  found : ∀ found, h.found? = some found →
    found = .connected ∨ found = .disconnecting ∧ c.state = .disconnecting
  passed : h = .passed .disconnecting → c.outbox = []
  queued : ∀ f, h = .text f → f.isQueued = true

theorem Grip.isDriven {h : Hand} (hgrip : c.Grip h) : c.isDriven = true := by
  obtain ⟨s, hp, -⟩ := hgrip.live
  simp [Connection.isDriven, hp]

variable {hand hand' : Option Hand}

/-- Only a driver with an open wire does a part of its work. -/
theorem Share.exists_live (h : Share ctx c hand c' hand') (hgrip : ∀ h ∈ hand, c.Grip h) :
    ∃ s, c.phase = .live s := by
  cases h with
  | looked phase | discarded phase | taken phase | sent _ phase | lost _ phase | pushed _ phase =>
    exact ⟨_, phase⟩
  | noticed | picked | passed | drained | nothing =>
    obtain ⟨s, hp, -⟩ := (hgrip _ rfl).live
    exact ⟨s, hp⟩

theorem Standing.share (h : c.Standing false) (hshare : Share ctx c hand c' hand')
    (hgrip : ∀ h ∈ hand, c.Grip h) : c'.Standing false := by
  cases hshare with
  | looked => exact h.congr rfl rfl rfl rfl
  | discarded phase | taken phase =>
    have hopen := h.closeSent_of_connected phase
    exact h.goOn phase rfl rfl rfl (List.append_nil _).symm (by simp) hopen
  | noticed log =>
    obtain ⟨s, hp, hclose⟩ := (hgrip _ rfl).live
    refine h.goOn hp hp rfl rfl rfl (fun e he => ?_) fun _ => hclose
    split at he
    · rw [List.mem_singleton.mp he]
      rfl
    · cases he
  | picked => exact h.congr rfl rfl rfl rfl
  | passed => exact h
  | drained => exact h.congr rfl rfl rfl rfl
  | nothing => exact h
  | sent log phase issue =>
    cases issue with
    | text | audio => exact h.congr rfl rfl rfl rfl
    | close =>
      have hclosing : c.state = .disconnecting :=
        (((hgrip _ rfl).found _ rfl).resolve_left (by simp)).2
      exact h.goOn phase rfl rfl rfl (List.append_nil _).symm (by simp)
        fun hs => by simp [hclosing] at hs
  | lost log phase issue verdict outcome =>
    have hserved := h.served_of_live phase
    cases issue <;> exact .of_verdict (by exact hserved) verdict outcome log
  | pushed log phase =>
    have hopen := h.closeSent_of_connected phase
    exact h.goOn phase rfl rfl rfl rfl (push_events_isTraffic _ _) hopen

theorem Wired.share (h : c.Wired) (hstanding : c.Standing false) (hshare : Share ctx c hand c' hand')
    (hgrip : ∀ h ∈ hand, c.Grip h) : c'.Wired := by
  cases hshare with
  | looked phase => exact h.goOn phase phase h.audio rfl List.suffix_rfl Iff.rfl rfl
  | discarded phase | taken phase =>
    exact h.goOn phase rfl h.audio rfl List.suffix_rfl Iff.rfl rfl
  | noticed log =>
    obtain ⟨s, hp, -⟩ := (hgrip _ rfl).live
    exact h.goOn hp hp h.audio rfl List.suffix_rfl Iff.rfl rfl
  | picked outbox =>
    obtain ⟨s, hp, -⟩ := (hgrip _ rfl).live
    exact h.goOn hp hp h.audio rfl (by rw [outbox]; exact List.suffix_cons _ _) Iff.rfl rfl
  | passed => exact h
  | drained =>
    obtain ⟨s, hp, -⟩ := (hgrip _ rfl).live
    exact h.goOn hp hp h.audio.reset rfl List.suffix_rfl Iff.rfl rfl
  | nothing => exact h
  | sent log phase issue =>
    cases issue with
    | text =>
      have hf := ne_close_of_isQueued ((hgrip _ rfl).queued _ rfl)
      exact h.goOn phase phase h.audio rfl List.suffix_rfl (close_mem_append hf) rfl
    | audio =>
      exact h.goOn phase phase h.audio rfl List.suffix_rfl (close_mem_append (by simp)) rfl
    | close =>
      have hnil := (hgrip _ rfl).passed rfl
      have hclosing := (((hgrip _ rfl).found _ rfl).resolve_left (by simp)).2
      refine ⟨h.audio.reset, h.outbox, fun s hp => ?_, fun _ => ⟨hnil, .inl hclosing⟩,
        fun hp => absurd rfl (hp _)⟩
      cases hp
      simp [Wire.sending]
  | lost log phase issue verdict =>
    cases issue with
    | text | audio => exact h.ended hstanding phase h.audio List.suffix_rfl rfl verdict log
    | close =>
      refine h.ended hstanding phase ?_ ?_ ?_ verdict log
      · exact h.audio.reset
      · exact List.suffix_rfl
      · rfl
  | pushed log phase => exact h.goOn phase rfl h.audio rfl List.suffix_rfl Iff.rfl rfl

theorem Grip.share (h : ∀ h ∈ hand, c.Grip h) (hstanding : c.Standing false) (hwired : c.Wired)
    (hshare : Share ctx c hand c' hand') : ∀ h ∈ hand', c'.Grip h := by
  intro h' hmem
  cases hshare with
  | @looked s phase =>
    cases hclose : s.closeSent with
    | true => simp [hclose] at hmem
    | false =>
      simp only [hclose, Bool.false_eq_true, if_false, Option.mem_some_iff] at hmem
      subst hmem
      refine ⟨⟨s, phase, hclose⟩, fun found hfound => ?_, fun hp => (by cases hp), fun f hf => (by cases hf)⟩
      cases hfound
      exact (hstanding.state_of_live phase).imp_right fun hs => ⟨hs, hs⟩
  | taken phase state =>
    cases hmem
    have hopen := hstanding.closeSent_of_connected phase state
    exact ⟨⟨_, rfl, hopen⟩, fun _ hf => (by cases hf),
      fun hp => (by cases hp), fun _ hf => (by cases hf)⟩
  | noticed log =>
    cases hmem
    have hgrip := h _ rfl
    exact ⟨hgrip.live, hgrip.found, fun hp => (by cases hp), fun _ hf => (by cases hf)⟩
  | picked outbox =>
    cases hmem
    refine ⟨(h _ rfl).live, fun _ hf => (by cases hf), fun hp => (by cases hp), fun _ hf => ?_⟩
    cases hf
    exact hwired.outbox _ (by rw [outbox]; exact List.mem_cons_self)
  | passed outbox =>
    cases hmem
    have hgrip := h _ rfl
    exact ⟨hgrip.live, hgrip.found, fun _ => outbox, fun _ hf => (by cases hf)⟩
  | drained =>
    cases hmem
    exact ⟨(h _ rfl).live, fun _ hf => (by cases hf), fun hp => (by cases hp),
      fun _ hf => (by cases hf)⟩
  | discarded | nothing | sent | lost | pushed => cases hmem

end Connection

end VoiceBridge
