import VoiceBridge.Proofs.Run.Departing
import VoiceBridge.Proofs.Run.Summoned

/-!
# Closing a connection in the middle of a turn

At most one close frame is sent, with nothing behind it, and behind it there is a call that asked for it.
What a connection sends and delivers from the moment on at which it leaves for disconnecting is what it
has in hand, its outbox and the close frame (`close_protocol`). The turn that is under way at that moment
has read the state before and may still send audio (`audio_sent_after_close`).
-/

namespace VoiceBridge

namespace Midway

variable {b : Bridge} {c c' : Connection} {hand hand' : Option Hand} {st : Stir}

theorem sealed_shift (hwired : c.Wired) (hgrip : ∀ h ∈ hand, c.Grip h)
    (hshift : Shift b c hand st c' hand') (h : c.Sealed) : c'.Sealed := by
  cases hshift with
  | moved change | cut change => exact Bridge.sealed_change hwired h change
  | shared running share =>
    cases share with
    | @sent _ _ f _ _ log phase issue =>
      exact Connection.Sealed.send (f := f) ((hgrip _ rfl).close_not_mem hwired) rfl
    | lost log phase issue => exact h.keep (by cases issue <;> rfl)
    | _ => exact h.keep rfl
  | still => exact h

theorem sealed_play {config : ServiceConfig} {stirs : List Stir} {id : String}
    (hc : (play { bridge := { config } } stirs).bridge.find? id = some c) : c.Sealed := by
  have hnew : ∀ {config : ConnectionConfig} {panicsOn : Option String} {d : Connection},
      Connection.create id config panicsOn = .ok d → ¬¬d.Sealed := by
    intro _ _ d hcreate hnot
    obtain ⟨_, _, rfl⟩ := Connection.create_eq hcreate
    refine hnot fun front rest heq => ?_
    cases front <;> cases heq
  by_contra hnot
  obtain ⟨before, st, after, d, d', rfl, hd, hd', hshift, hsealed, hbroken⟩ := exists_shift hnew hc hnot
  have hw := (Steady.init config).play before
  exact hbroken (sealed_shift (hw.wired d (List.mem_of_find?_eq_some hd)).2 (hw.grip_of_find? hd)
    hshift (not_not.mp hsealed))

/-- No stir but a call asks for the close of a connection. -/
theorem closeAsked_shift (hwired : c.Wired) (hgrip : ∀ h ∈ hand, c.Grip h)
    (hshift : Shift b c hand st c' hand') (h : c'.CloseAsked) :
    c.CloseAsked ∨ ∃ call, st = .move (.act (.call c.id call)) ∧ c.held = true ∧
      call.asksToClose = true ∧ c.BeginsToClose c' := by
  cases hshift with
  | moved change | cut change =>
    refine (Bridge.closeAsked_change hwired change h).imp_right fun ⟨call, hm, hrest⟩ => ?_
    exact ⟨call, congrArg Stir.move hm, hrest⟩
  | shared running share =>
    refine .inl ?_
    have hkept : c'.closeAfterConnect = c.closeAfterConnect →
        (c'.state = .disconnecting → c.state = .disconnecting) →
        (.close ∈ c'.wire.sent → .close ∈ c.wire.sent) → c.CloseAsked :=
      fun hflag hs hsent => h.imp (fun h => hflag ▸ h) (Or.imp hs hsent)
    cases share with
    | sent log phase issue =>
      cases issue with
      | text =>
        have hf := Connection.ne_close_of_isQueued ((hgrip _ rfl).queued _ rfl)
        exact hkept rfl (fun hs => hs) (Connection.close_mem_append hf).mp
      | audio => exact hkept rfl (fun hs => hs) (Connection.close_mem_append (by simp)).mp
      | close => exact .inr (.inl (((hgrip _ rfl).found _ rfl).resolve_left (by simp)).2)
    | lost log phase issue verdict =>
      refine hkept (by cases issue <;> rfl) (fun hs => ?_) (by cases issue <;> exact fun hmem => hmem)
      exact absurd hs (Ending.final_ne_disconnecting verdict)
    | _ => exact hkept rfl (fun hs => hs) fun hmem => hmem
  | still => exact .inl h

/-- Behind a close frame on the wire there is a call that closed the connection, now or for later. -/
theorem exists_call_of_close {config : ServiceConfig} {stirs : List Stir} {id : String}
    (hc : (play { bridge := { config } } stirs).bridge.find? id = some c)
    (hmem : .close ∈ c.wire.sent) :
    ∃ before call after d d', stirs = before ++ .move (.act (.call id call)) :: after ∧
      call.asksToClose = true ∧ (play { bridge := { config } } before).bridge.find? id = some d ∧
      d.held = true ∧
      (play { bridge := { config } } (before ++ [.move (.act (.call id call))])).bridge.find? id =
        some d' ∧ d.BeginsToClose d' := by
  have hnew : ∀ {config : ConnectionConfig} {panicsOn : Option String} {d : Connection},
      Connection.create id config panicsOn = .ok d → ¬d.CloseAsked := by
    intro _ _ d hcreate hasked
    obtain ⟨_, _, rfl⟩ := Connection.create_eq hcreate
    rcases hasked with h | h | h <;> cases h
  obtain ⟨before, st, after, d, d', rfl, hd, hd', hshift, hnot, hasked⟩ :=
    exists_shift hnew hc (.inr (.inr hmem))
  have hw := (Steady.init config).play before
  obtain ⟨call, rfl, hheld, hasks, hbegins⟩ :=
    (closeAsked_shift (hw.wired d (List.mem_of_find?_eq_some hd)).2 (hw.grip_of_find? hd) hshift
      hasked).resolve_left hnot
  rw [Bridge.id_of_find? hd] at hd' ⊢
  exact ⟨before, call, after, d, d', rfl, hasks, hd, hheld, by rw [play_append]; exact hd', hbegins⟩

/-- A connection that is disconnecting after a stir and was not before has sent no close frame yet. -/
theorem close_not_mem_of_shift {b : Bridge} {c c' : Connection} {hand hand' : Option Hand} {st : Stir}
    (hstanding : c.Standing b.queues.stopped) (hwired : c.Wired) (hshift : Shift b c hand st c' hand')
    (hs : c.state ≠ .disconnecting) (hs' : c'.state = .disconnecting) : .close ∉ c'.wire.sent := by
  cases hshift with
  | moved change | cut change => exact Bridge.close_not_mem_of_change hstanding hwired change hs hs'
  | shared running share =>
    cases share with
    | sent log phase issue => exact absurd (by cases issue <;> exact hs') hs
    | lost log phase issue verdict => exact absurd hs' (Ending.final_ne_disconnecting verdict)
    | _ => exact absurd hs' hs
  | still => exact absurd hs' hs

end Midway

/-- At most one close frame is sent, behind everything else, and only where a call closed the connection
at once or for as soon as it is open. From the moment on at which the connection is disconnecting, the far
end receives, apart from pings, what the driver still sends of what it has in hand at that moment, then what
is left in the outbox and then the close frame, or a beginning of that. It receives all of it by the time
the bridge is settled and the driver has nothing in hand, unless the driver is over before. No other audio
is sent, and nothing is delivered but what the driver still delivers of what it has in hand, and the last
event. -/
theorem close_protocol (config : ServiceConfig) (stirs : List Stir) (id : String) (c : Connection)
    (hc : (Midway.play { bridge := { config } } stirs).bridge.find? id = some c) :
    c.wire.sent.count .close ≤ 1 ∧
    (∀ front rest, c.wire.sent = front ++ .close :: rest → rest = []) ∧
    (.close ∈ c.wire.sent → ∃ before call after d d',
      stirs = before ++ .move (.act (.call id call)) :: after ∧ call.asksToClose = true ∧
      (Midway.play { bridge := { config } } before).bridge.find? id = some d ∧ d.held = true ∧
      (Midway.play { bridge := { config } } (before ++ [.move (.act (.call id call))])).bridge.find? id =
        some d' ∧
      (d.state = .connected ∧ d'.state = .disconnecting ∨
        d.closeAfterConnect = false ∧ d'.closeAfterConnect = true)) ∧
    ∀ before st after d d', stirs = before ++ st :: after →
      (Midway.play { bridge := { config } } before).bridge.find? id = some d →
      (Midway.play { bridge := { config } } (before ++ [st])).bridge.find? id = some d' →
      d.state ≠ .disconnecting → d'.state = .disconnecting →
      ∃ amid told new last,
        (let hand := (Midway.play { bridge := { config } } (before ++ [st])).hands id
         Leaves d'.outbox hand amid ∧ told.length ≤ 1 ∧ (∀ e ∈ told, d'.Tells hand e) ∧
          (hand = none → amid = [] ∧ told = [])) ∧
        c.wire.sent = d'.wire.sent ++ new ∧ new.filter (!·.isPing) <+: amid ++ (d'.outbox ++ [.close]) ∧
        (let w := Midway.play { bridge := { config } } stirs
         w.bridge.Settled → w.hands id = none → c.phase ≠ .over →
          new.filter (!·.isPing) = amid ++ (d'.outbox ++ [.close])) ∧
        (∀ f ∈ d'.outbox, f.audio? = none) ∧
        c.events = d'.events ++ told ++ last ∧ last.length ≤ 1 ∧ ∀ e ∈ last, e.isTraffic = false := by
  have hsealed := Midway.sealed_play hc
  refine ⟨hsealed.count_le, hsealed, Midway.exists_call_of_close hc, ?_⟩
  rintro before st after d d' rfl hd hd' hs hs'
  have hw := (Midway.Steady.init config).play before
  have hw' := (Midway.Steady.init config).play (before ++ [st])
  obtain ⟨hstanding, hwired⟩ := hw.wired d (List.mem_of_find?_eq_some hd)
  have hwired' := (hw'.wired d' (List.mem_of_find?_eq_some hd')).2
  -- The moment of leaving.
  have hnot : .close ∉ d'.wire.sent := by
    obtain ⟨d₁, hd₁, hshift⟩ := Midway.stir_shift hw hd st
    rw [Midway.play_append, Midway.play_cons, Midway.play_nil, hd₁] at hd'
    cases hd'
    exact Midway.close_not_mem_of_shift hstanding hwired hshift hs hs'
  -- What becomes of the connection since.
  obtain ⟨c₁, hc₁, hdeparting⟩ := Midway.departing_play hw' hd' hs' after
  have hsplit : before ++ st :: after = before ++ [st] ++ after := by simp
  rw [hsplit] at hc ⊢
  rw [← Midway.play_append, hc] at hc₁
  cases hc₁
  rw [← Midway.play_append] at hdeparting
  generalize hhand : (Midway.play { bridge := { config } } (before ++ [st])).hands id = hand at hdeparting ⊢
  obtain ⟨told, htold, htells, -, hevents⟩ := hdeparting.events
  obtain ⟨new, hnew, hprefix, hall⟩ := hdeparting.frames
  have hframes : ∃ amid, Leaves d'.outbox hand amid ∧
      new.filter (!·.isPing) <+: amid ++ (d'.outbox ++ [.close]) ∧
      (let w := Midway.play { bridge := { config } } (before ++ [st] ++ after)
       w.bridge.Settled → w.hands id = none → c.phase ≠ .over →
        new.filter (!·.isPing) = amid ++ (d'.outbox ++ [.close])) := by
    rw [← Connection.leftToSend_of_not_mem hnot]
    by_cases hdone : (Midway.play { bridge := { config } } (before ++ [st] ++ after)).bridge.Settled ∧
        (Midway.play { bridge := { config } } (before ++ [st] ++ after)).hands id = none ∧ c.phase ≠ .over
    · obtain ⟨hsettled, hfree, hover⟩ := hdone
      obtain ⟨hclosing, hlive⟩ := hdeparting.open_of_not_over
        (((Midway.Steady.init config).play _).wired c (List.mem_of_find?_eq_some hc)).1 hover
      have hnothing := Midway.leftToSend_of_settled hsettled hc hfree hclosing hlive
      rw [hfree] at hall
      obtain ⟨amid, hamid, hsent⟩ := hall hlive [] (Connection.maySend_none.mpr hnothing.symm)
      rw [List.append_nil] at hsent
      exact ⟨amid, hamid, hsent ▸ List.prefix_rfl, fun _ _ _ => hsent⟩
    · obtain ⟨left, ⟨amid, hamid, rfl⟩, hprefix⟩ := hprefix
      exact ⟨amid, hamid, hprefix, fun hsettled hfree hover => absurd ⟨hsettled, hfree, hover⟩ hdone⟩
  obtain ⟨amid, hamid, hprefix, hsettled⟩ := hframes
  have hidle : hand = none → amid = [] ∧ told = [] := by
    rintro rfl
    exact ⟨hamid.eq_nil, List.eq_nil_iff_forall_not_mem.mpr fun e he => htells e he⟩
  have haudio : ∀ f ∈ d'.outbox, f.audio? = none := fun f hf =>
    OutboundFrame.audio?_of_isQueued (hwired'.outbox f hf)
  rcases hevents with ⟨-, he⟩ | ⟨-, he⟩
  · exact ⟨amid, told, new, [], ⟨hamid, htold, htells, hidle⟩, hnew, hprefix, hsettled, haudio,
      by rw [he, List.append_nil], Nat.zero_le 1, by simp⟩
  · exact ⟨amid, told, new, [.connectionClosedGracefully], ⟨hamid, htold, htells, hidle⟩, hnew, hprefix,
      hsettled, haudio, he, le_rfl, by simp [EventKind.isTraffic]⟩

/-- A connection is made and opened. -/
def untilOpen : List Stir :=
  [.move (.act (.create "a"
      { sessionId := "a", host := "far", audioCapacity := 8, headerReserve := 2 } none)),
    .move (.act (.call "a" .connect)), .move .loop, .move (.wait 1), .move (.errand 0 .dial)]

/-- A turn has begun on the open connection, where audio waits and no text. -/
def begun : List Stir :=
  untilOpen ++ [.move (.act (.call "a" (.audio [[1, 2, 3]] none))), .move .loop, .part "a" .look]

/-- The turn goes on, and another follows. -/
def carryingOn : List Stir :=
  [.part "a" .goOn, .part "a" .goOn, .part "a" .goOn, .part "a" .goOn, .move .loop,
    .move (.errand 0 .turn)]

/-- The turn that is under way when the connection is closed sends the audio before the close frame is
sent. -/
theorem close_protocol_begun :
    ∃ c amid new, (Midway.play { bridge := { config := {} } }
        (begun ++ .move (.act (.call "a" .close)) :: carryingOn)).bridge.find? "a" = some c ∧
      Leaves [] (some (.found .connected)) amid ∧ c.wire.sent = [] ++ new ∧
      new.filter (!·.isPing) = amid ++ [.close] := by
  have hbefore : ((Midway.play { bridge := { config := {} } } begun).bridge.find? "a").any (fun c =>
      decide (c.state ≠ .disconnecting)) = true := by decide +kernel
  have hclose : ((Midway.play { bridge := { config := {} } }
      (begun ++ [.move (.act (.call "a" .close))])).bridge.find? "a").any (fun c =>
        decide (c.state = .disconnecting ∧ c.wire.sent = [] ∧ c.outbox = [])) = true := by decide +kernel
  have hafter : ((Midway.play { bridge := { config := {} } }
      (begun ++ .move (.act (.call "a" .close)) :: carryingOn)).bridge.find? "a").any (fun c =>
        decide (c.phase ≠ .over)) = true := by decide +kernel
  obtain ⟨d, hd, hs⟩ := (Option.any_eq_true _ _).mp hbefore
  obtain ⟨d', hd', hstands⟩ := (Option.any_eq_true _ _).mp hclose
  obtain ⟨c, hc, hover⟩ := (Option.any_eq_true _ _).mp hafter
  obtain ⟨hs', hsent, houtbox⟩ := of_decide_eq_true hstands
  obtain ⟨_, _, _, hmoment⟩ := close_protocol {} _ "a" c hc
  obtain ⟨amid, _, new, _, ⟨hamid, _⟩, hnew, _, hall, _⟩ :=
    hmoment begun _ carryingOn d d' rfl hd hd' (of_decide_eq_true hs) hs'
  have hframes := hall (by decide +kernel) (by decide +kernel) (of_decide_eq_true hover)
  rw [hsent] at hnew
  rw [houtbox] at hamid hframes
  exact ⟨c, amid, new, hc, hamid, hnew, hframes⟩

/-- A text waits on the open connection, which is closed. -/
def textClosed : List Stir :=
  untilOpen ++ [.move (.act (.call "a" (.text "one"))), .move (.act (.call "a" .close))]

/-- Audio is sent after the connection has left for disconnecting, by the turn that is under way. And a
shutdown keeps the outbox and the close frame from being sent, though no send fails and the connection has
not ended. -/
theorem audio_sent_after_close :
    (∃ d c new, (Midway.play { bridge := { config := {} } }
          (begun ++ [.move (.act (.call "a" .close))])).bridge.find? "a" = some d ∧
        (Midway.play { bridge := { config := {} } }
          (begun ++ .move (.act (.call "a" .close)) :: carryingOn)).bridge.find? "a" = some c ∧
        d.state = .disconnecting ∧ c.wire.sent = d.wire.sent ++ new ∧
        ¬new.filter (!·.isPing) <+: d.outbox ++ [.close]) ∧
      ∃ d c new, (Midway.play { bridge := { config := {} } } textClosed).bridge.find? "a" = some d ∧
        (Midway.play { bridge := { config := {} } }
          (textClosed ++ [.move (.act .shutdown)])).bridge.find? "a" = some c ∧
        d.state = .disconnecting ∧ c.wire.sent = d.wire.sent ++ new ∧ c.wire.sendFault? = none ∧
        c.state = .disconnecting ∧ c.outcome = none ∧ new.filter (!·.isPing) ≠ d.outbox ++ [.close] := by
  have hclose : ((Midway.play { bridge := { config := {} } }
      (begun ++ [.move (.act (.call "a" .close))])).bridge.find? "a").any (fun d =>
        decide (d.state = .disconnecting ∧ d.wire.sent = [] ∧ d.outbox = [])) = true := by decide +kernel
  have hafter : ((Midway.play { bridge := { config := {} } }
      (begun ++ .move (.act (.call "a" .close)) :: carryingOn)).bridge.find? "a").any (fun c =>
        decide (c.wire.sent = [.binary [1, 2, 3], .close])) = true := by decide +kernel
  have htext : ((Midway.play { bridge := { config := {} } } textClosed).bridge.find? "a").any (fun d =>
      decide (d.state = .disconnecting ∧ d.wire.sent = [] ∧ d.outbox = [.text "one"])) = true := by
    decide +kernel
  have hstopped : ((Midway.play { bridge := { config := {} } }
      (textClosed ++ [.move (.act .shutdown)])).bridge.find? "a").any (fun c => decide
        (c.wire.sent = [] ∧ c.wire.sendFault? = none ∧ c.state = .disconnecting ∧ c.outcome = none)) =
          true := by decide +kernel
  obtain ⟨d, hd, hdclosing⟩ := (Option.any_eq_true _ _).mp hclose
  obtain ⟨c, hc, hcsent⟩ := (Option.any_eq_true _ _).mp hafter
  obtain ⟨d', hd', hdtext⟩ := (Option.any_eq_true _ _).mp htext
  obtain ⟨c', hc', hcstopped⟩ := (Option.any_eq_true _ _).mp hstopped
  obtain ⟨hs, hsent, houtbox⟩ := of_decide_eq_true hdclosing
  obtain ⟨hs', hsent', houtbox'⟩ := of_decide_eq_true hdtext
  obtain ⟨hnothing, hsound, hclosing, hopen⟩ := of_decide_eq_true hcstopped
  refine ⟨⟨d, c, [.binary [1, 2, 3], .close], hd, hc, hs, ?_, ?_⟩,
    d', c', [], hd', hc', hs', ?_, hsound, hclosing, hopen, ?_⟩
  · rw [hsent]
    exact of_decide_eq_true hcsent
  · rw [houtbox]
    decide
  · rw [hsent', hnothing]
    rfl
  · rw [houtbox']
    decide

end VoiceBridge
