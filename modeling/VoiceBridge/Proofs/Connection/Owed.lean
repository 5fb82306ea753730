import VoiceBridge.Proofs.Connection.Beat
import VoiceBridge.Proofs.Run.Closing
import VoiceBridge.Proofs.Run.WakeUp

/-!
# What an open connection owes

An open connection owes its far end what is in the outbox, then the audio that waits in one frame or, once
it is disconnecting, the close frame (`owed`). As long as nobody calls, what has been sent since and what
is still owed make up what was owed at first, whatever the driver sees to next (`Flushing`).

Only the end of the connection can come in between. A failed send is one (`sendFails`). An arrival or a
timer may be another, unless none that ends the connection waits (`Unthreatened`).
-/

namespace VoiceBridge

namespace Connection

variable {ctx : LoopContext} {c c' d : Connection} {q : Requests}

/-! ### What is owed -/

/-- The audio that waits, in one frame. -/
def audioLeft (c : Connection) : List OutboundFrame :=
  if c.audio.pending = [] then [] else [.binary c.audio.pending]

/-- What an open connection has to send to its far end, pings apart. -/
def owed (c : Connection) : List OutboundFrame :=
  match c.phase with
  | .live _ => if c.state = .disconnecting then c.leftToSend else c.outbox ++ c.audioLeft
  | .absent | .dialling _ _ | .over => []

theorem owed_of_connected {s : Session} (hp : c.phase = .live s) (hs : c.state = .connected) :
    c.owed = c.outbox ++ c.audioLeft := by simp [owed, hp, hs]

theorem owed_of_disconnecting {s : Session} (hp : c.phase = .live s) (hs : c.state = .disconnecting) :
    c.owed = c.leftToSend := by simp [owed, hp, hs]

theorem owed_of_over (hp : c.phase = .over) : c.owed = [] := by simp [owed, hp]

/-- What has become of an open connection `d` to which nobody spoke. -/
structure Flushing (d c : Connection) : Prop where
  begun : c.phase = .over ∨ ∃ s, c.phase = .live s
  frames : ∃ new, c.wire.sent = d.wire.sent ++ new ∧ new.filter (!·.isPing) ++ c.owed = d.owed
  audio : c.audio.pending = [] ∨ c.audio.pending = d.audio.pending ∧ (c.owed = [] → d.owed = [])

theorem Flushing.refl (hbegun : c.phase = .over ∨ ∃ s, c.phase = .live s) : Flushing c c :=
  ⟨hbegun, ⟨[], (List.append_nil _).symm, rfl⟩, .inr ⟨rfl, fun h => h⟩⟩

/-- Once nothing is owed, nothing comes to be owed. -/
theorem Flushing.owed_eq_nil (h : Flushing d c) (hnone : d.owed = []) : c.owed = [] := by
  obtain ⟨_, _, hframes⟩ := h.frames
  rw [hnone] at hframes
  exact (List.append_eq_nil_iff.mp hframes).2

/-- Nothing is sent. -/
theorem Flushing.keep {s s' : Session} (h : Flushing d c) (hp : c.phase = .live s)
    (hp' : c'.phase = .live s') (hs : c'.state = c.state) (hsent : c'.wire.sent = c.wire.sent)
    (ho : c'.outbox = c.outbox) (ha : c'.audio = c.audio) : Flushing d c' := by
  have howed : c'.owed = c.owed := by
    simp only [owed, hp, hp', hs, leftToSend_congr hsent ho, audioLeft, ho, ha]
  obtain ⟨new, hnew, hframes⟩ := h.frames
  refine ⟨.inr ⟨s', hp'⟩, ⟨new, hsent.trans hnew, by rw [howed]; exact hframes⟩, ?_⟩
  rw [howed, ha]
  exact h.audio

/-- A frame is sent that is owed first, or a ping. -/
theorem Flushing.send {s' : Session} {f : OutboundFrame} (h : Flushing d c)
    (hp' : c'.phase = .live s') (hsent : c'.wire.sent = c.wire.sent ++ [f])
    (hleft : [f].filter (!·.isPing) ++ c'.owed = c.owed)
    (ha : c'.audio.pending = [] ∨ c'.audio = c.audio ∧ (c'.owed = [] → c.owed = [])) :
    Flushing d c' := by
  obtain ⟨new, hnew, hframes⟩ := h.frames
  refine ⟨.inr ⟨s', hp'⟩, ⟨new ++ [f], ?_, ?_⟩, ?_⟩
  · rw [hsent, hnew, List.append_assoc]
  · rw [List.filter_append, List.append_assoc, hleft]
    exact hframes
  · rcases ha with hpending | ⟨hsame, hbefore⟩
    · exact .inl hpending
    · rw [hsame]
      exact h.audio.imp_right fun h => ⟨h.1, fun hnone => h.2 (hbefore hnone)⟩

/-- The connection ends when nothing is owed. -/
theorem Flushing.finish (h : Flushing d c) (hnone : c.owed = []) (hp' : c'.phase = .over)
    (hsent : c'.wire.sent = c.wire.sent) (ha : c'.audio.pending = c.audio.pending ∨
      c'.audio.pending = []) : Flushing d c' := by
  obtain ⟨new, hnew, hframes⟩ := h.frames
  refine ⟨.inl hp', ⟨new, hsent.trans hnew, ?_⟩, ?_⟩
  · rw [owed_of_over hp', ← hnone]
    exact hframes
  · rcases ha with ha | ha
    · rw [ha]
      exact h.audio.imp_right fun h => ⟨h.1, fun _ => h.2 hnone⟩
    · exact .inl ha

/-- The next frame of the outbox is sent. -/
theorem Flushing.sendQueued {s s' : Session} {f : OutboundFrame} (h : Flushing d c)
    (hp : c.phase = .live s) (hp' : c'.phase = .live s')
    (hstate : c.state = .connected ∨ c.state = .disconnecting) (hs : c'.state = c.state)
    (hnot : .close ∉ c.wire.sent) (hf : f.isQueued = true) (hsent : c'.wire.sent = c.wire.sent ++ [f])
    (ho : c.outbox = f :: c'.outbox) (ha : c'.audio = c.audio) : Flushing d c' := by
  have hping : [f].filter (!·.isPing) = [f] := by simp [OutboundFrame.isPing_of_isQueued hf]
  have haudio : c'.audioLeft = c.audioLeft := by rw [audioLeft, audioLeft, ha]
  rcases hstate with hconn | hclosing
  · have howed := owed_of_connected hp' (hs.trans hconn)
    refine h.send hp' hsent ?_ ?_
    · rw [hping, howed, owed_of_connected hp hconn, ho, haudio]
      rfl
    · by_cases hpending : c'.audio.pending = []
      · exact .inl hpending
      · refine .inr ⟨ha, fun hnone => ?_⟩
        rw [howed] at hnone
        simp [audioLeft, hpending] at hnone
  · have hstill : .close ∉ c'.wire.sent := by
      rw [hsent, close_mem_append (ne_close_of_isQueued hf)]
      exact hnot
    have howed := owed_of_disconnecting hp' (hs.trans hclosing)
    rw [leftToSend, if_neg hstill] at howed
    refine h.send hp' hsent ?_ (.inr ⟨ha, fun hnone => ?_⟩)
    · rw [hping, howed, owed_of_disconnecting hp hclosing, leftToSend, if_neg hnot, ho]
      rfl
    · rw [howed] at hnone
      simp at hnone

/-- The close frame is sent, and the audio that waits is dropped. -/
theorem Flushing.sendClose {s s' : Session} (h : Flushing d c) (hp : c.phase = .live s)
    (hp' : c'.phase = .live s') (hclosing : c.state = .disconnecting) (hs : c'.state = c.state)
    (hnot : .close ∉ c.wire.sent) (hsent : c'.wire.sent = c.wire.sent ++ [.close])
    (ho : c.outbox = []) (ha : c'.audio.pending = []) : Flushing d c' := by
  have hmem : .close ∈ c'.wire.sent := by
    rw [hsent]
    exact List.mem_append_right _ (List.mem_singleton.mpr rfl)
  refine h.send hp' hsent ?_ (.inl ha)
  rw [owed_of_disconnecting hp' (hs.trans hclosing), owed_of_disconnecting hp hclosing, leftToSend,
    leftToSend, if_pos hmem, if_neg hnot, ho]
  rfl

/-- All audio that waits is sent. -/
theorem Flushing.sendAudio {s s' : Session} (h : Flushing d c) (hp : c.phase = .live s)
    (hp' : c'.phase = .live s') (hconn : c.state = .connected) (hs : c'.state = c.state)
    (hsent : c'.wire.sent = c.wire.sent ++ [.binary c.audio.pending]) (hsome : c.audio.pending ≠ [])
    (ho : c.outbox = []) (ho' : c'.outbox = []) (ha : c'.audio.pending = []) : Flushing d c' := by
  refine h.send hp' hsent ?_ (.inl ha)
  rw [owed_of_connected hp' (hs.trans hconn), owed_of_connected hp hconn, audioLeft, audioLeft,
    if_pos ha, if_neg hsome, ho, ho']
  rfl

theorem Flushing.sendPing {s s' : Session} (h : Flushing d c) (hp : c.phase = .live s)
    (hp' : c'.phase = .live s') (hs : c'.state = c.state)
    (hsent : c'.wire.sent = c.wire.sent ++ [.ping []]) (ho : c'.outbox = c.outbox)
    (ha : c'.audio = c.audio) : Flushing d c' := by
  have hping : OutboundFrame.ping [] ≠ .close := by simp
  have hleft : c'.leftToSend = c.leftToSend := by
    simp only [leftToSend, hsent, close_mem_append hping, ho]
  have howed : c'.owed = c.owed := by
    simp only [owed, hp, hp', hs, hleft, audioLeft, ho, ha]
  exact h.send hp' hsent howed (.inr ⟨ha, fun hnone => howed ▸ hnone⟩)

theorem Flushing.attempt {s : Session} {f : OutboundFrame} {before after : Connection}
    (log : List LogLine) (h : Flushing d c) (hwired : c.Wired) (hp : c.phase = .live s)
    (hstate : c.state = .connected ∨ c.state = .disconnecting) (ha : Attempt ctx c s f before after) :
    Flushing d { after with wire := c.wire.sending ctx.network f, log } := by
  have hnot := ha.close_not_mem hwired hp
  have hreset := AudioBuffer.pending_eq_nil (AudioBuffer.hasPending_reset c.audio)
  cases ha with
  | text _ _ _ outbox =>
    have hf : f.isQueued = true := hwired.outbox f (by rw [outbox]; exact List.mem_cons_self)
    exact h.sendQueued hp hp hstate rfl hnot hf rfl outbox rfl
  | close _ _ _ outbox state => exact h.sendClose hp rfl state rfl hnot rfl outbox hreset
  | audio _ _ _ outbox state pending =>
    exact h.sendAudio hp hp state rfl rfl (AudioBuffer.pending_ne_nil hwired.audio pending) outbox rfl
      hreset
  | ping => exact h.sendPing hp rfl rfl rfl rfl rfl

/-- A step that ends the connection only if nothing is owed. -/
theorem Flushing.progress (h : Flushing d c) (hstanding : c.Standing false) (hwired : c.Wired)
    (hend : c'.phase = .over → c.owed = []) (hp : Progress ctx c c') : Flushing d c' := by
  have hbegun : ∀ {since : Nat} {delay : Option Nat}, c.phase ≠ .dialling since delay := by
    intro since delay phase
    rcases h.begun with hover | ⟨s, hlive⟩
    · simp [phase] at hover
    · simp [phase] at hlive
  cases hp with
  | refused _ _ phase | opened _ phase => exact absurd phase hbegun
  | spent phase => exact h.keep phase phase rfl rfl rfl rfl
  | quiet _ phase _ _ outbox => exact h.keep phase phase rfl rfl outbox.symm rfl
  | sent log phase attempt => exact h.attempt log hwired phase (hstanding.state_of_live phase) attempt
  | lost log phase attempt =>
    refine h.finish (hend rfl) rfl ?_ ?_
    · cases attempt <;> rfl
    · cases attempt with
      | text | ping => exact .inl rfl
      | close | audio => exact .inr (AudioBuffer.pending_eq_nil (AudioBuffer.hasPending_reset _))
  | discarded phase => exact h.keep phase rfl rfl rfl rfl rfl
  | taken log phase => exact h.keep phase rfl rfl rfl rfl rfl
  | heard phase => exact h.keep phase rfl rfl rfl rfl rfl
  | ended | expired | broken => exact h.finish (hend rfl) rfl rfl (.inl rfl)

/-! ### What may end the connection -/

/-- To see to this is to send something that the wire does not take. -/
def sendFails (ctx : LoopContext) (c : Connection) (e : Errand) : Bool :=
  (c.seeTo? ctx e).isSome &&
    match c.phase, e with
    | .live s, .turn => (c.turn ctx s).1.isSome
    | .live _, .ping => (c.transmit ctx.network (.ping [])).1.isSome
    | _, _ => false

/-- Nothing that ends the connection waits to be taken in, and no time has run out. -/
structure Unthreatened (now : Nat) (pongTimeout : Span) (c : Connection) : Prop where
  inbound : ∀ a ∈ c.wire.inbound, a.ending? = none
  silence : ∀ s, c.phase = .live s → s.ping.isSome = true → now ≤ s.lastHeard + pongTimeout.nanos
  closeTimeout : ∀ s, c.phase = .live s → ∀ deadline, s.closeDeadline = some deadline → now ≤ deadline

/-- A turn ends the connection only where it sends what the wire does not take. -/
theorem sendFails_of_turn (hstanding : c.Standing false) (hsee : c.seeTo? ctx .turn = some c')
    (hover : c'.phase = .over) : c.sendFails ctx .turn = true := by
  obtain ⟨s, hp, _, hw, rfl⟩ := exists_of_seeTo?_turn hsee
  have ho := hstanding.outcome_of_isDriven (by simp [isDriven, hp])
  have hfails : c.sendFails ctx .turn = (c.turn ctx s).1.isSome := by simp [sendFails, hsee, hp]
  rw [hfails]
  rcases turn_cases ctx hp (hstanding.state_of_live hp) ho hw with
    ⟨_, hturn⟩ | ⟨_, _, _, _, log, hturn⟩ | ⟨f, before, after, _, hattempt, ⟨_, _, hsend⟩ | ⟨_, log, hsend⟩⟩
  · rw [hturn] at hover
    simp [afterSend, hp] at hover
  · rw [hturn] at hover
    simp [afterSend, turned, hp] at hover
  · rw [hsend]
    rfl
  · rw [hsend] at hover
    cases hattempt <;> simp [afterSend, turned, hp] at hover

theorem isLive_takeIn {s : Session} {a : Arrival} (hstanding : c.Standing false)
    (hp : c.phase = .live s) (ha : a.ending? = none) : (c.takeIn ctx s a).isLive = true := by
  have ho := hstanding.outcome_of_isDriven (by simp [isDriven, hp])
  cases a with
  | fragment f =>
    change (c.takeFragment { s with lastHeard := ctx.now } f).isLive = true
    unfold takeFragment
    split
    · rfl
    · obtain ⟨log, htake⟩ := pushFragment_eq ho { s with lastHeard := ctx.now } f
      rw [htake]
      rfl
  | heartbeat => rfl
  | closed | failed | ended => cases ha

/-- A ping ends the connection only where the wire does not take it, or where the clock cannot tell the
time of the next one. -/
theorem sendFails_of_ping (hstanding : c.Standing false) (hsee : c.seeTo? ctx .ping = some c')
    {s : Session} (hp : c.phase = .live s) (hover : c'.phase = .over) (hcut : ¬c'.CutOff) :
    c.sendFails ctx .ping = true := by
  have ho := hstanding.outcome_of_isDriven (by simp [isDriven, hp])
  have hfails : c.sendFails ctx .ping = (c.transmit ctx.network (.ping [])).1.isSome := by
    simp [sendFails, hsee, hp]
  obtain ⟨p, _, rfl⟩ := Option.map_eq_some_iff.mp (attend?_of_seeTo? hp (by simp) hsee)
  rw [hfails]
  rcases transmit_eq ctx.network c (.ping []) with ⟨reason, _, hsend⟩ | ⟨hsound, _⟩
  · rw [hsend]
    rfl
  · by_cases hlate : (p.ticked ctx.now).next < clockEnd
    · rw [sendPing, if_pos hlate] at hover
      rcases transmit_eq ctx.network { c with phase := .live { s with ping := some (p.ticked ctx.now) } }
        (.ping []) with ⟨reason, hfault, _⟩ | ⟨_, log, hsend⟩
      · rw [hsound] at hfault
        cases hfault
      · rw [hsend] at hover
        cases hover
    · rw [sendPing, if_neg hlate] at hcut
      exact absurd ⟨rfl, ho⟩ hcut

/-- What ends an open connection is a send that fails, or something that threatened it, unless the clock
could not tell a deadline. -/
theorem ends_cases {s : Session} {e : Errand} (hstanding : c.Standing false) (hp : c.phase = .live s)
    (hsee : c.seeTo? ctx e = some c') (hover : c'.phase = .over) (hcut : ¬c'.CutOff) :
    c.sendFails ctx e = true ∨ e ≠ .turn ∧ ¬c.Unthreatened ctx.now ctx.config.pongTimeout := by
  cases e with
  | reckon =>
    have ho := hstanding.outcome_of_isDriven (by simp [isDriven, hp])
    simp only [seeTo?, hp] at hsee
    split at hsee
    · cases hsee
    · cases hsee
      exact absurd ⟨rfl, ho⟩ hcut
  | dial | connectTimeout => cases attend?_of_seeTo? hp (by simp) hsee
  | turn => exact .inl (sendFails_of_turn hstanding hsee hover)
  | ping => exact .inl (sendFails_of_ping hstanding hsee hp hover hcut)
  | arrival =>
    refine .inr ⟨by simp, fun hsafe => ?_⟩
    have hattend := attend?_of_seeTo? hp (by simp) hsee
    unfold attend? at hattend
    dsimp only at hattend
    split at hattend
    · rename_i a rest hin
      cases hattend
      have hkind := hsafe.inbound a (by rw [hin]; exact List.mem_cons_self)
      have hlive : ({ c with wire := { c.wire with inbound := rest } }.takeIn ctx s a).isLive = true :=
        isLive_takeIn (hstanding.congr rfl rfl rfl rfl) hp hkind
      obtain ⟨t, ht⟩ := isLive_iff.mp hlive
      rw [ht] at hover
      cases hover
    · cases hattend
  | silence =>
    refine .inr ⟨by simp, fun hsafe => ?_⟩
    have hattend := attend?_of_seeTo? hp (by simp) hsee
    rw [attend?_silence_eq_none.mpr (hsafe.silence s hp)] at hattend
    cases hattend
  | closeTimeout =>
    refine .inr ⟨by simp, fun hsafe => ?_⟩
    have hattend := attend?_of_seeTo? hp (by simp) hsee
    rw [attend?_closeTimeout_eq_none.mpr (hsafe.closeTimeout s hp)] at hattend
    cases hattend

/-- Until the close frame is sent, nothing that the driver does threatens the connection. -/
theorem Unthreatened.progress (h : c.Unthreatened ctx.now ctx.config.pongTimeout) (hwired : c.Wired)
    {s : Session} (hp : c.phase = .live s) (hprogress : Progress ctx c c') :
    c'.phase = .over ∨ .close ∈ c'.wire.sent ∨ c'.Unthreatened ctx.now ctx.config.pongTimeout := by
  rcases hprogress.isBegun with ⟨s', hp'⟩ | hover
  · right
    have hsame : ∀ {t : Session}, c'.phase = .live t → t = s' := fun ht =>
      Phase.live.inj (ht.symm.trans hp')
    rcases hprogress.beat hwired hp' with ⟨t, ht, hbeat⟩ | ⟨⟨since, delay, hdial⟩, _⟩
    · have hsilence := h.silence t ht
      have hclose := h.closeTimeout t ht
      cases hbeat with
      | same inbound =>
        exact .inr ⟨inbound ▸ h.inbound, fun _ hu => hsame hu ▸ hsilence, fun _ hu => hsame hu ▸ hclose⟩
      | closing _ _ _ sent =>
        left
        rw [sent]
        exact List.mem_append_right _ (List.mem_singleton.mpr rfl)
      | pinged _ timer _ inbound =>
        have htimer : t.ping.isSome = true := by rw [timer]; rfl
        refine .inr ⟨fun a ha => ?_, fun _ hu _ => hsame hu ▸ hsilence htimer,
          fun _ hu => hsame hu ▸ hclose⟩
        rw [inbound] at ha
        rcases List.mem_append.mp ha with ha | ha
        · exact h.inbound a ha
        · unfold Wire.echo at ha
          dsimp only at ha
          split at ha
          · rw [List.mem_singleton.mp ha]
            rfl
          · cases ha
      | heard _ before after =>
        refine .inr ⟨fun a ha => h.inbound a ?_, fun _ hu _ => hsame hu ▸ Nat.le_add_right _ _,
          fun _ hu => hsame hu ▸ hclose⟩
        rw [after] at ha
        rw [before]
        exact List.mem_cons_of_mem _ ha
    · rw [hp] at hdial
      cases hdial
  · exact .inl hover

/-- A send fails on a wire with a fault only. -/
theorem sendFault?_of_sendFails {e : Errand} (hstanding : c.Standing false)
    (h : c.sendFails ctx e = true) : c.wire.sendFault? ≠ none := by
  obtain ⟨hready, hfails⟩ := Bool.and_eq_true_iff.mp h
  obtain ⟨c', hsee⟩ := Option.isSome_iff_exists.mp hready
  cases hp : c.phase with
  | live s =>
    simp only [hp] at hfails
    cases e with
    | turn =>
      obtain ⟨t, ht, _, hw, _⟩ := exists_of_seeTo?_turn hsee
      cases Phase.live.inj (ht.symm.trans hp)
      have ho := hstanding.outcome_of_isDriven (by simp [isDriven, hp])
      rcases turn_cases ctx hp (hstanding.state_of_live hp) ho hw with
        ⟨_, hturn⟩ | ⟨_, _, _, _, log, hturn⟩ |
          ⟨f, before, after, _, _, ⟨reason, hfault, _⟩ | ⟨_, log, hsend⟩⟩
      · simp [hturn] at hfails
      · simp [hturn] at hfails
      · simp [hfault]
      · simp [hsend] at hfails
    | ping =>
      rcases transmit_eq ctx.network c (.ping []) with ⟨reason, hfault, _⟩ | ⟨_, log, hsend⟩
      · simp [hfault]
      · simp [hsend] at hfails
    | _ => cases hfails
  | _ => simp [hp] at hfails

/-- Behind the close frame nothing is owed. -/
theorem owed_of_close_mem {stopped : Bool} (hstanding : c.Standing stopped) (hwired : c.Wired)
    (hmem : .close ∈ c.wire.sent) : c.owed = [] := by
  cases hp : c.phase with
  | live s =>
    rcases hstanding.state_of_live hp with hs | hs
    · have hclosing := (hwired.closing hmem).2
      simp [hs] at hclosing
    · rw [owed_of_disconnecting hp hs]
      exact if_pos hmem
  | _ => simp [owed, hp]

/-- Where there is nothing to do, nothing is owed. -/
theorem Idle.owed_eq_nil {stopped : Bool} (h : c.Idle) (hstanding : c.Standing stopped) :
    c.owed = [] := by
  cases hp : c.phase with
  | live s =>
    have hdriven : c.isDriven = true := by simp [isDriven, hp]
    rcases hstanding.state_of_live hp with hs | hs
    · obtain ⟨houtbox, hpending, _⟩ := h.work hs hdriven
      rw [owed_of_connected hp hs, houtbox, audioLeft, if_pos (AudioBuffer.pending_eq_nil hpending)]
      rfl
    · rw [owed_of_disconnecting hp hs]
      exact if_pos (h.close hs hdriven)
  | _ => simp [owed, hp]

/-- One writable turn sends at most one frame, and that of the outbox first. -/
theorem sent_of_turn (hstanding : c.Standing false) (hwired : c.Wired)
    (hsee : c.seeTo? ctx .turn = some c') :
    ∃ frames, c'.wire.sent = c.wire.sent ++ frames ∧ frames.length ≤ 1 ∧
      ∀ f ∈ frames, ∀ g rest, c.outbox = g :: rest → f = g ∧ f.audio? = none := by
  have hnothing : c'.wire.sent = c.wire.sent → ∃ frames, c'.wire.sent = c.wire.sent ++ frames ∧
      frames.length ≤ 1 ∧ ∀ f ∈ frames, ∀ g rest, c.outbox = g :: rest → f = g ∧ f.audio? = none :=
    fun hsent => ⟨[], by rw [hsent, List.append_nil], by simp, by simp⟩
  obtain ⟨s, hp, _, hw, rfl⟩ := exists_of_seeTo?_turn hsee
  have ho := hstanding.outcome_of_isDriven (by simp [isDriven, hp])
  have hs := hstanding.state_of_live hp
  rcases turn_cases ctx hp hs ho hw with
    ⟨_, hturn⟩ | ⟨_, _, _, _, log, hturn⟩ | ⟨f, before, after, haim, hattempt, hsend⟩
  · exact hnothing (by rw [hturn]; rfl)
  · exact hnothing (by rw [hturn]; rfl)
  · rcases afterSend_eq hs ho hattempt hsend with ⟨_, log, heq⟩ | ⟨_, _, _, _, log, _, _, _, heq⟩
    · refine ⟨[f], by rw [heq]; rfl, Nat.le_refl _, fun f' hf' g rest hout => ?_⟩
      rw [List.mem_singleton.mp hf']
      have hfirst : f = g := by
        have hclose : s.closeSent = false := by cases hattempt <;> assumption
        simpa [aim?, hp, hw, hclose, hout] using haim.symm
      rw [hfirst]
      exact ⟨rfl, OutboundFrame.audio?_of_isQueued
        (hwired.outbox g (by rw [hout]; exact List.mem_cons_self))⟩
    · refine hnothing ?_
      rw [heq]
      cases hattempt <;> rfl

end Connection

end VoiceBridge
