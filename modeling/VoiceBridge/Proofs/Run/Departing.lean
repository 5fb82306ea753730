import VoiceBridge.Proofs.Run.Midway

/-!
# A connection that leaves in the middle of a turn

A connection may leave for disconnecting while its driver is in the middle of a turn, or has a fragment in
hand. The driver goes on with what it began: `Leaves` says what it may still send, and `Tells` what it may
still deliver. Then it sends what is left in the outbox and the close frame, and nothing else but pings.
`Departing d hand₀ c hand` says so of the connection `d` at that moment, with `hand₀` in hand, and of `c`,
what has become of it since; no stir breaks it (`departing_shift`).
-/

namespace VoiceBridge

/-- What the driver may still send of what it has in hand, apart from what is in the outbox. A turn that
found the connection open sends the pending audio if it finds no text. -/
inductive Leaves (outbox : List OutboundFrame) : Option Hand → List OutboundFrame → Prop
  | idle : Leaves outbox none []
  | fragment (f : Fragment) : Leaves outbox (some (.fragment f)) []
  | nothing {h : Hand} {found : ConnectionState} (turn : h.found? = some found) : Leaves outbox (some h) []
  | drained {h : Hand} (bytes : Bytes) (turn : h.found? = some .connected)
      (textless : outbox = [] ∨ h = .passed .connected) : Leaves outbox (some h) [.binary bytes]
  | text (f : OutboundFrame) : Leaves outbox (some (.text f)) [f]
  | audio (bytes : Bytes) : Leaves outbox (some (.audio bytes)) [.binary bytes]

theorem Leaves.exists (outbox : List OutboundFrame) (hand : Option Hand) :
    ∃ amid, Leaves outbox hand amid := by
  cases hand with
  | none => exact ⟨_, .idle⟩
  | some h =>
    cases h with
    | found | noted | passed => exact ⟨_, .nothing rfl⟩
    | text f => exact ⟨_, .text f⟩
    | audio bytes => exact ⟨_, .audio bytes⟩
    | fragment f => exact ⟨_, .fragment f⟩

theorem Leaves.eq_nil {outbox amid : List OutboundFrame} (h : Leaves outbox none amid) : amid = [] := by
  cases h
  rfl

/-- To go on from the notice to the text leaves the same to be sent. -/
theorem Leaves.of_noted {outbox amid : List OutboundFrame} {found : ConnectionState}
    (h : Leaves outbox (some (.noted found)) amid) : Leaves outbox (some (.found found)) amid := by
  cases h with
  | nothing turn => exact .nothing rfl
  | drained bytes turn textless =>
    cases turn
    exact .drained bytes rfl (textless.imp_right fun h => by cases h)

theorem Leaves.of_passed {amid : List OutboundFrame} {found : ConnectionState}
    (h : Leaves [] (some (.passed found)) amid) : Leaves [] (some (.noted found)) amid := by
  cases h with
  | nothing turn => exact .nothing rfl
  | drained bytes turn =>
    cases turn
    exact .drained bytes rfl (.inl rfl)

namespace Connection

/-- What may still be delivered of a closing connection whose driver has something in hand. -/
def Tells (c : Connection) : Option Hand → EventKind → Prop
  | some (.found found), e => found = .connected ∧ e = .bufferOverrun
  | some (.fragment f), e =>
    ∃ s, c.phase = .live s ∧ e ∈ (s.assembly.push f).1.events c.config.profile.bidirectional
  | _, _ => False

/-- What may still be sent of a closing connection, pings apart. -/
def MaySend (c : Connection) (hand : Option Hand) (left : List OutboundFrame) : Prop :=
  ∃ amid, Leaves c.outbox hand amid ∧ left = amid ++ c.leftToSend

theorem MaySend.exists (c : Connection) (hand : Option Hand) : ∃ left, c.MaySend hand left := by
  obtain ⟨amid, hamid⟩ := Leaves.exists c.outbox hand
  exact ⟨_, amid, hamid, rfl⟩

theorem maySend_none {c : Connection} {left : List OutboundFrame} :
    c.MaySend none left ↔ left = c.leftToSend := by
  constructor
  · rintro ⟨amid, hamid, rfl⟩
    rw [hamid.eq_nil, List.nil_append]
  · rintro rfl
    exact ⟨[], .idle, rfl⟩

theorem MaySend.congr {c c' : Connection} {hand : Option Hand} {left : List OutboundFrame}
    (h : c'.MaySend hand left) (hsent : c'.wire.sent = c.wire.sent) (houtbox : c'.outbox = c.outbox) :
    c.MaySend hand left := by
  obtain ⟨amid, hamid, rfl⟩ := h
  exact ⟨amid, houtbox ▸ hamid, by rw [leftToSend_congr hsent houtbox]⟩

/-- A connection `c` that was disconnecting when it was `d`, and what was and is in hand for them. -/
structure Departing (d : Connection) (hand₀ : Option Hand) (c : Connection) (hand : Option Hand) : Prop where
  events : ∃ told, told.length ≤ 1 ∧ (∀ e ∈ told, d.Tells hand₀ e) ∧
    (∀ e, c.Tells hand e → told = [] ∧ d.Tells hand₀ e) ∧
    (c.state = .disconnecting ∧ c.events = d.events ++ told ∨
      c.state = .disconnected ∧ c.events = d.events ++ told ++ [.connectionClosedGracefully])
  frames : ∃ new, c.wire.sent = d.wire.sent ++ new ∧
    (∃ left, d.MaySend hand₀ left ∧ new.filter (!·.isPing) <+: left) ∧
    (c.isLive = true → ∀ left, c.MaySend hand left → d.MaySend hand₀ (new.filter (!·.isPing) ++ left))

variable {d c c' : Connection} {hand₀ hand hand' : Option Hand} {ctx : LoopContext}

theorem Departing.refl (hs : c.state = .disconnecting) (hand : Option Hand) : Departing c hand c hand := by
  obtain ⟨left, hleft⟩ := MaySend.exists c hand
  exact ⟨⟨[], Nat.zero_le 1, by simp, fun _ he => ⟨rfl, he⟩, .inl ⟨hs, (List.append_nil _).symm⟩⟩,
    [], (List.append_nil _).symm, ⟨left, hleft, List.nil_prefix⟩, fun _ _ h => h⟩

theorem Departing.closing (h : Departing d hand₀ c hand) :
    c.state = .disconnecting ∨ c.state = .disconnected := by
  obtain ⟨_, _, _, _, hevents⟩ := h.events
  exact hevents.imp And.left And.left

/-- A closing connection whose driver is not over has an open wire. -/
theorem Departing.open_of_not_over {stopped : Bool} (h : Departing d hand₀ c hand)
    (hstanding : c.Standing stopped) (hover : c.phase ≠ .over) :
    c.state = .disconnecting ∧ c.isLive = true := by
  obtain ⟨-, hs⟩ := hstanding.disconnecting_of_not_over hover h.closing
  have hdriven := hstanding.isDriven_of_not_over (by simp [hs]) hover
  exact ⟨hs, isLive_iff.mpr (hstanding.live_of_state (.inr hs) hdriven)⟩

/-- What is sent and delivered in one step. -/
theorem Departing.step (more : List OutboundFrame) (said : List EventKind) (h : Departing d hand₀ c hand)
    (hs : c.state = .disconnecting) (hlive : c.isLive = true)
    (hsent : c'.wire.sent = c.wire.sent ++ more)
    (hbegins : ∃ left, c.MaySend hand left ∧ more.filter (!·.isPing) <+: left)
    (hleft : c'.isLive = true → ∀ left, c'.MaySend hand' left →
      c.MaySend hand (more.filter (!·.isPing) ++ left))
    (hlength : said.length ≤ 1) (hsaid : ∀ e ∈ said, c.Tells hand e)
    (htells : ∀ e, c'.Tells hand' e → said = [] ∧ c.Tells hand e)
    (hevents : c'.state = .disconnecting ∧ c'.events = c.events ++ said ∨
      c'.state = .disconnected ∧ c'.events = c.events ++ said ++ [.connectionClosedGracefully]) :
    Departing d hand₀ c' hand' := by
  obtain ⟨new, hnew, -, hbefore⟩ := h.frames
  obtain ⟨told, htold, htoldd, hstill, hcases⟩ := h.events
  have hcevents : c.events = d.events ++ told := by
    rcases hcases with ⟨-, he⟩ | ⟨hs', -⟩
    · exact he
    · rw [hs] at hs'
      cases hs'
  refine ⟨⟨told ++ said, ?_, ?_, ?_, ?_⟩, new ++ more, ?_, ?_, ?_⟩
  · cases said with
    | nil => simpa using htold
    | cons e rest =>
      rw [(hstill e (hsaid e List.mem_cons_self)).1]
      exact hlength
  · intro e he
    rcases List.mem_append.mp he with he | he
    · exact htoldd e he
    · exact (hstill e (hsaid e he)).2
  · intro e he
    obtain ⟨hnil, htell⟩ := htells e he
    obtain ⟨hnil', htelld⟩ := hstill e htell
    exact ⟨by rw [hnil, hnil', List.append_nil], htelld⟩
  · rw [← List.append_assoc, ← hcevents]
    exact hevents
  · rw [hsent, hnew, List.append_assoc]
  · obtain ⟨left, hmay, rest, hrest⟩ := hbegins
    refine ⟨_, hbefore hlive left hmay, rest, ?_⟩
    rw [List.filter_append, List.append_assoc, hrest]
  · intro hlive' left hmay
    rw [List.filter_append, List.append_assoc]
    exact hbefore hlive _ (hleft hlive' left hmay)

/-- Nothing is sent and nothing delivered. -/
theorem Departing.keep (h : Departing d hand₀ c hand) (hs : c'.state = c.state)
    (he : c'.events = c.events) (hsent : c'.wire.sent = c.wire.sent)
    (hlive : c'.isLive = true → c.isLive = true ∧ ∀ left, c'.MaySend hand' left → c.MaySend hand left)
    (htells : ∀ e, c'.Tells hand' e → c.Tells hand e) : Departing d hand₀ c' hand' := by
  obtain ⟨new, hnew, hprefix, hbefore⟩ := h.frames
  obtain ⟨told, htold, htoldd, hstill, hcases⟩ := h.events
  refine ⟨⟨told, htold, htoldd, fun e htell => hstill e (htells e htell), by rw [hs, he]; exact hcases⟩,
    new, hsent.trans hnew, hprefix, fun hlive' left hmay => ?_⟩
  obtain ⟨hlivec, hmayc⟩ := hlive hlive'
  exact hbefore hlivec left (hmayc left hmay)

/-- The driver goes on with what it has in hand, or begins a turn. -/
theorem Departing.goOn (more : List OutboundFrame) (said : List EventKind) (h : Departing d hand₀ c hand)
    (hclosing : c.state = .disconnecting) (hlive : c.isLive = true) (hs : c'.state = c.state)
    (he : c'.events = c.events ++ said) (hsent : c'.wire.sent = c.wire.sent ++ more)
    (hleft : ∀ left, c'.MaySend hand' left → c.MaySend hand (more.filter (!·.isPing) ++ left))
    (hlength : said.length ≤ 1) (hsaid : ∀ e ∈ said, c.Tells hand e)
    (htells : ∀ e, ¬c'.Tells hand' e) : Departing d hand₀ c' hand' := by
  obtain ⟨left, hmay⟩ := MaySend.exists c' hand'
  exact h.step more said hclosing hlive hsent ⟨_, hleft left hmay, List.prefix_append _ _⟩
    (fun _ => hleft) hlength hsaid (fun e htell => absurd htell (htells e)) (.inl ⟨hs.trans hclosing, he⟩)

/-- A failure to send ends a closing connection gracefully. -/
theorem Departing.lost {e : Ending} {final : ConnectionState} {last : EventKind} {o : TerminalOutcome}
    {before : Connection} (h : Departing d hand₀ c hand) (hclosing : c.state = .disconnecting)
    (hlive : c.isLive = true) (he : before.events = c.events) (hsent : before.wire.sent = c.wire.sent)
    (hv : e.verdict? c.graceful c.state = some (final, last)) (log : List LogLine) :
    Departing d hand₀ (before.finished final last o log) none := by
  rw [hclosing] at hv
  cases hv
  obtain ⟨left, hmay⟩ := MaySend.exists c hand
  exact h.step [] [] hclosing hlive (hsent.trans (List.append_nil _).symm)
    ⟨left, hmay, List.nil_prefix⟩ (fun hlive => by cases hlive) (Nat.zero_le 1) (by simp)
    (fun _ htell => htell.elim) (.inr ⟨rfl, by rw [finished, he, List.append_nil]⟩)

theorem push_events_length_le (bidirectional : Bool) (o : PushOutcome) :
    (o.events bidirectional).length ≤ 1 := by
  cases o with
  | complete m =>
    change (m.events bidirectional).length ≤ 1
    unfold Message.events
    split <;> split <;> simp
  | incomplete | oversized | skipped => exact Nat.zero_le 1

/-- A driver that has something in hand has not sent its close frame. -/
theorem Grip.close_not_mem {h : Hand} (hgrip : c.Grip h) (hwired : c.Wired) : .close ∉ c.wire.sent := by
  obtain ⟨s, hp, hclose⟩ := hgrip.live
  intro hmem
  rw [(hwired.closeSent s hp).mpr hmem] at hclose
  cases hclose

theorem leftToSend_of_not_mem (h : .close ∉ c.wire.sent) : c.leftToSend = c.outbox ++ [.close] := if_neg h

/-! ### A part of a turn -/

variable {left : List OutboundFrame} {found : ConnectionState}

theorem MaySend.of_looked {sent : Bool} (hs : c.state = .disconnecting)
    (h : c.MaySend (if sent then none else some (.found c.state)) left) : c.MaySend none left := by
  cases sent with
  | true => exact h
  | false =>
    obtain ⟨amid, hamid, rfl⟩ := h
    rw [hs] at hamid
    cases hamid with
    | nothing => exact ⟨[], .idle, rfl⟩
    | drained _ turn => cases turn

theorem MaySend.of_noted (h : c.MaySend (some (.noted found)) left) :
    c.MaySend (some (.found found)) left := by
  obtain ⟨amid, hamid, rfl⟩ := h
  exact ⟨amid, hamid.of_noted, rfl⟩

theorem MaySend.of_passed (houtbox : c.outbox = []) (h : c.MaySend (some (.passed found)) left) :
    c.MaySend (some (.noted found)) left := by
  obtain ⟨amid, hamid, rfl⟩ := h
  rw [houtbox] at hamid
  exact ⟨amid, houtbox ▸ hamid.of_passed, rfl⟩

/-- The text that a turn takes was the first of the outbox. -/
theorem MaySend.of_picked {f : OutboundFrame} {rest : List OutboundFrame} (hnot : .close ∉ c.wire.sent)
    (houtbox : c.outbox = f :: rest) (h : { c with outbox := rest }.MaySend (some (.text f)) left) :
    c.MaySend (some (.noted found)) left := by
  obtain ⟨amid, hamid, rfl⟩ := h
  cases hamid with
  | nothing turn | drained _ turn => cases turn
  | text =>
    refine ⟨[], .nothing rfl, ?_⟩
    rw [leftToSend_of_not_mem hnot, houtbox, leftToSend_of_not_mem (by exact hnot)]
    rfl

theorem MaySend.of_audio {bytes : Bytes} (h : c.MaySend (some (.audio bytes)) left) :
    c.MaySend (some (.passed .connected)) left := by
  obtain ⟨amid, hamid, rfl⟩ := h
  cases hamid with
  | nothing turn | drained _ turn => cases turn
  | audio => exact ⟨_, .drained _ rfl (.inr rfl), rfl⟩

/-- What is sent was to be sent next. -/
theorem MaySend.of_issue {s : Session} {h : Hand} {f : OutboundFrame} {before after : Connection}
    {log : List LogLine} (hwired : c.Wired) (hgrip : c.Grip h) (issue : Issue ctx c s h f before after)
    (hmay : { after with wire := c.wire.sending ctx.network f, log }.MaySend none left) :
    c.MaySend (some h) ([f].filter (!·.isPing) ++ left) := by
  have hnot := hgrip.close_not_mem hwired
  rw [maySend_none] at hmay
  cases issue with
  | text =>
    have hqueued := hgrip.queued f rfl
    have hping : [f].filter (!·.isPing) = [f] := by simp [OutboundFrame.isPing_of_isQueued hqueued]
    have hstill : .close ∉ c.wire.sent ++ [f] := by
      rwa [close_mem_append (ne_close_of_isQueued hqueued)]
    rw [leftToSend_of_not_mem hstill] at hmay
    rw [hping, hmay]
    exact ⟨[f], .text f, by rw [leftToSend_of_not_mem hnot]⟩
  | audio bytes =>
    have hstill : .close ∉ c.wire.sent ++ [.binary bytes] := by
      rwa [close_mem_append (by simp)]
    rw [leftToSend_of_not_mem hstill] at hmay
    rw [hmay]
    exact ⟨_, .audio bytes, by rw [leftToSend_of_not_mem hnot]; rfl⟩
  | close =>
    have hnone : left = [] := hmay.trans (if_pos (List.mem_append_right _ (List.mem_singleton.mpr rfl)))
    refine ⟨[], .nothing rfl, ?_⟩
    rw [hnone, leftToSend_of_not_mem hnot, hgrip.passed rfl]
    rfl

theorem departing_share (h : Departing d hand₀ c hand) (hstanding : c.Standing false) (hwired : c.Wired)
    (hgrip : ∀ h ∈ hand, c.Grip h) (hshare : Share ctx c hand c' hand') :
    Departing d hand₀ c' hand' := by
  obtain ⟨s, hp⟩ := hshare.exists_live hgrip
  have hlive := isLive_of_phase hp
  have hclosing : c.state = .disconnecting := by
    rcases hstanding.state_of_live hp with hs | hs
    · rcases h.closing with hs' | hs' <;> simp [hs] at hs'
    · exact hs
  cases hshare with
  | @looked s phase =>
    refine h.keep rfl rfl rfl (fun _ => ⟨hlive, fun left hmay => ?_⟩) fun e htell => ?_
    · exact MaySend.of_looked hclosing (hmay.congr rfl rfl)
    · cases hclose : s.closeSent <;> simp [hclose, hclosing, Tells] at htell
  | discarded =>
    exact h.keep rfl rfl rfl (fun _ => ⟨hlive, fun left hmay => hmay.congr rfl rfl⟩)
      fun _ htell => htell
  | taken _ state =>
    rw [hclosing] at state
    cases state
  | @noticed found log =>
    refine h.goOn [] _ hclosing hlive rfl rfl (List.append_nil _).symm
      (fun left hmay => (hmay.congr rfl rfl).of_noted) ?_ (fun e he => ?_) fun _ htell => htell
    · split
      · exact le_rfl
      · exact Nat.zero_le 1
    · split at he
      · rename_i hn
        exact ⟨beq_iff_eq.mp (Bool.and_eq_true_iff.mp hn).1, List.mem_singleton.mp he⟩
      · cases he
  | picked outbox =>
    have hnot := (hgrip _ rfl).close_not_mem hwired
    exact h.keep rfl rfl rfl (fun _ => ⟨hlive, fun left hmay => hmay.of_picked hnot outbox⟩)
      fun _ htell => htell
  | passed outbox =>
    exact h.keep rfl rfl rfl (fun _ => ⟨hlive, fun left hmay => hmay.of_passed outbox⟩)
      fun _ htell => htell
  | @drained found open? =>
    have hfound : found = .connected :=
      ((hgrip _ rfl).found found rfl).resolve_right fun hclosing => open? hclosing.1
    subst hfound
    exact h.keep rfl rfl rfl (fun _ => ⟨hlive, fun left hmay => (hmay.congr rfl rfl).of_audio⟩)
      fun _ htell => htell
  | nothing =>
    refine h.keep rfl rfl rfl (fun _ => ⟨hlive, fun left hmay => ?_⟩) fun _ htell => htell.elim
    exact ⟨[], .nothing rfl, maySend_none.mp hmay⟩
  | sent log phase issue =>
    refine h.goOn [_] [] hclosing hlive ?_ ?_ rfl
      (fun left hmay => hmay.of_issue hwired (hgrip _ rfl) issue) (Nat.zero_le 1) (by simp)
      fun _ htell => htell
    · cases issue <;> rfl
    · cases issue <;> exact (List.append_nil _).symm
  | lost log phase issue verdict =>
    cases issue <;> refine h.lost hclosing hlive ?_ ?_ verdict log <;> rfl
  | @pushed s f log phase =>
    refine h.goOn [] _ hclosing hlive rfl rfl (List.append_nil _).symm
      (fun left hmay => ?_) (push_events_length_le _ _) (fun e he => ⟨s, phase, he⟩)
      fun _ htell => htell
    rw [maySend_none] at hmay
    exact ⟨[], .fragment f, hmay⟩

theorem Tells.congr {e : EventKind} (hp : ∀ s, c'.phase = .live s → c.phase = .live s)
    (hconfig : c'.config = c.config) (h : c'.Tells hand e) : c.Tells hand e := by
  unfold Tells at h ⊢
  split at h
  · exact h
  · obtain ⟨s, hlive, he⟩ := h
    exact ⟨s, hp s hlive, hconfig ▸ he⟩
  · exact h

/-- A step of the driver that has nothing in hand. -/
theorem departing_progress (h : Departing d hand₀ c none) (hstanding : c.Standing false) (hwired : c.Wired)
    (hp : Progress ctx c c') : Departing d hand₀ c' none := by
  have hclosing : c.state = .disconnecting := by
    refine h.closing.resolve_right fun hs => ?_
    have hdriven := hp.isDriven
    unfold isDriven at hdriven
    cases hstanding <;> simp_all
  have hlive := isLive_iff.mpr (hstanding.live_of_state (.inr hclosing) hp.isDriven)
  have hsince := (Closing.refl hclosing).progress hstanding hwired hp
  obtain ⟨new, hnew, hprefix, hleft⟩ := hsince.frames
  refine h.step _ [] hclosing hlive hnew ⟨_, maySend_none.mpr rfl, hprefix⟩
    (fun hlive' left hmay => ?_) (Nat.zero_le 1) (by simp) (fun _ htell => htell.elim) ?_
  · obtain ⟨s, hp'⟩ := isLive_iff.mp hlive'
    rw [maySend_none] at hmay ⊢
    rw [hmay]
    exact hleft (by simp [hp'])
  · rw [List.append_nil]
    exact hsince.events

end Connection

namespace Midway

variable {b : Bridge} {c c' d : Connection} {hand₀ hand hand' : Option Hand} {st : Stir}

/-- The shutdown leaves no open wire behind. -/
theorem isLive_of_cut (hstanding : c.Standing b.queues.stopped) (h : b.Change c (.act .shutdown) c') :
    c'.isLive = false := by
  cases hlive : c'.isLive with
  | false => rfl
  | true =>
    obtain ⟨s, hp⟩ := Connection.isLive_iff.mp hlive
    cases h with
    | cut =>
      dsimp only at hp
      split at hp
      · cases hp
      · rename_i hdriven
        simp [Connection.isDriven, hp] at hdriven
    | spared _ _ stopped =>
      have hrunning := hstanding.running_of_isDriven (by simp [Connection.isDriven, hp])
      rw [stopped rfl] at hrunning
      cases hrunning

/-- Neither a call nor the loop does anything to a closing connection that can be seen. -/
theorem departing_undriven {m : Move} (h : Connection.Departing d hand₀ c hand)
    (hstanding : c.Standing b.queues.stopped) (hchange : b.Change c m c')
    (free : ∀ n e, m ≠ .errand n e) (hhand : c'.isLive = true → hand' = hand)
    (htells : ∀ e, c'.Tells hand' e → c'.Tells hand e) : Connection.Departing d hand₀ c' hand' := by
  rcases hchange.progress_or_undriven with ⟨n, e, rfl, _⟩ | hundriven
  · exact absurd rfl (free n e)
  · have hconn : c.state ≠ .connected := by rcases h.closing with hs | hs <;> simp [hs]
    have hidle : c.state ≠ .idle := by rcases h.closing with hs | hs <;> simp [hs]
    refine h.keep (hundriven.state_eq hidle hconn) hundriven.events hundriven.sent (fun hlive => ?_)
      fun e htell => (htells e htell).congr hundriven.live (hchange.config hstanding)
    obtain ⟨s, hp⟩ := Connection.isLive_iff.mp hlive
    refine ⟨Connection.isLive_of_phase (hundriven.live s hp), fun left hmay => ?_⟩
    rw [hhand hlive] at hmay
    exact hmay.congr hundriven.sent (outbox_of_change h.closing hchange free)

/-- No stir breaks what holds of a closing connection. -/
theorem departing_shift (hstanding : c.Standing b.queues.stopped) (hwired : c.Wired)
    (hgrip : ∀ h ∈ hand, c.Grip h) (hshift : Shift b c hand st c' hand')
    (h : Connection.Departing d hand₀ c hand) : Connection.Departing d hand₀ c' hand' := by
  cases hshift with
  | @moved m _ change calm free =>
    by_cases herrand : ∃ n e, m = .errand n e
    · obtain ⟨n, e, rfl⟩ := herrand
      have hnone := free n e rfl
      subst hnone
      cases change with
      | progress running progress =>
        exact Connection.departing_progress h (running ▸ hstanding) hwired progress
      | spared => exact h
    · exact departing_undriven h hstanding change (fun n e hm => herrand ⟨n, e, hm⟩) (fun _ => rfl)
        fun _ htell => htell
  | cut change =>
    refine departing_undriven h hstanding change (by simp) (fun hlive => ?_) fun _ htell => htell.elim
    rw [isLive_of_cut hstanding change] at hlive
    cases hlive
  | shared running share =>
    exact Connection.departing_share h (running ▸ hstanding) hwired hgrip share
  | still => exact h

/-- What becomes of a connection from the moment on at which it is disconnecting. -/
theorem departing_play {w : Midway} (hw : w.Steady) {id : String} (hd : w.bridge.find? id = some d)
    (hs : d.state = .disconnecting) (stirs : List Stir) :
    ∃ c, (w.play stirs).bridge.find? id = some c ∧
      Connection.Departing d (w.hands id) c ((w.play stirs).hands id) :=
  exists_play_of_kept (P := Connection.Departing d (w.hands id)) departing_shift stirs hw hd
    (.refl hs (w.hands id))

end Midway

end VoiceBridge
