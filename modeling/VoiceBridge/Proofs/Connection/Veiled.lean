import VoiceBridge.Bridge.Handle
import VoiceBridge.Proofs.Connection.Errand

/-!
# What a driver does not look at

Whether the caller still holds the handle is read by the event loop, which takes up requests for connections
that somebody has, and by a call. Whether the callback fails is read where it is run, and all that comes of
it is a line in the log. So a driver does the same to a connection with another handle and a callback that
never fails (`veiled`), in whatever order it goes (`seeTo?_veiled`), and so it is in the fixed order
(`step?_veiled`).

Two cases have names of their own: the connection without its handle (`unheld`), and the connection as it
would be if its callback never failed (`calm`).
-/

namespace VoiceBridge.Connection

/-- The log, if `hush` says so without the lines that note failures of the callback. -/
def hushed (hush : Bool) (log : List LogLine) : List LogLine :=
  bif hush then log.filter (·.level ≠ .error) else log

/-- The connection with another handle, and if `hush` says so with a callback that never fails, and never
did. -/
def veiled (hush : Bool) (held : Bool → Bool) (c : Connection) : Connection :=
  { c with
    panicsOn := bif hush then [] else c.panicsOn
    log := hushed hush c.log
    held := held c.held }

theorem hushed_concat {line : LogLine} (h : line.level ≠ .error) (hush : Bool) (log : List LogLine) :
    hushed hush (log ++ [line]) = hushed hush log ++ [line] := by
  cases hush with
  | true => simp [hushed, h]
  | false => rfl

variable (ctx : LoopContext) (hush : Bool) (held : Bool → Bool) (c : Connection)

theorem warned_veiled (text : String) :
    (c.veiled hush held).warned text = (c.warned text).veiled hush held := by
  unfold warned logged veiled
  dsimp only
  rw [hushed_concat (by simp)]

theorem notify_veiled (e : EventKind) :
    (c.veiled hush held).notify e = (c.notify e).veiled hush held := by
  have hpanics : (c.veiled hush held).panicsOn = bif hush then [] else c.panicsOn := rfl
  unfold notify
  dsimp only
  rw [hpanics]
  cases hush with
  | false => by_cases h : e.name ∈ c.panicsOn <;> simp only [h, cond_false, if_true, if_false] <;> rfl
  | true =>
    rw [cond_true, if_neg List.not_mem_nil]
    by_cases h : e.name ∈ c.panicsOn
    · simp [h, veiled, logged, hushed]
    · rw [if_neg h]
      rfl

theorem emit_veiled (e : EventKind) :
    (c.veiled hush held).emit e = (c.emit e).veiled hush held := by
  cases ho : c.outcome with
  | some o =>
    have hsome : c.outcome.isSome = true := by rw [ho]; rfl
    rw [emit_of_outcome hsome, emit_of_outcome (c := c.veiled hush held) hsome]
  | none =>
    have ho' : (c.veiled hush held).outcome = none := ho
    cases he : e.outcome? with
    | none =>
      simp only [emit, ho, ho', he]
      exact notify_veiled hush held c e
    | some o =>
      simp only [emit, ho, ho', he]
      exact congrArg (resolveWaits · o)
        (notify_veiled hush held { c with outcome := some o } e)

/-- A move between states is made of the one just as of the other. -/
theorem moved_veiled (source target : ConnectionState) :
    (c.veiled hush held).moved source target = (c.moved source target).map (veiled hush held) := by
  have hstate : (c.veiled hush held).state = c.state := rfl
  unfold moved
  rw [hstate]
  cases c.state.transition source target <;> rfl

theorem endedBy_veiled (e : Ending) :
    (c.veiled hush held).endedBy ctx e = (c.endedBy ctx e).veiled hush held := by
  have hstate : (c.veiled hush held).state = c.state := rfl
  have hverdict : e.verdict? (c.veiled hush held).graceful
      (c.veiled hush held).state = e.verdict? c.graceful c.state := rfl
  unfold endedBy
  rw [hverdict]
  cases e.verdict? c.graceful c.state with
  | none => rfl
  | some verdict =>
    dsimp only
    rw [moved_veiled, hstate]
    cases c.moved c.state verdict.1 with
    | error found => rfl
    | ok d =>
      dsimp only [Except.map]
      cases e.remark? ctx.config with
      | none => exact congrArg driverGone (emit_veiled hush held d verdict.2)
      | some text =>
        dsimp only
        rw [warned_veiled]
        exact congrArg driverGone (emit_veiled hush held (d.warned text) verdict.2)

theorem deliverMessage_veiled (m : Message) :
    (c.veiled hush held).deliverMessage m = (c.deliverMessage m).veiled hush held := by
  unfold deliverMessage
  cases m.kind with
  | text =>
    dsimp only
    cases Text.ofUtf8? m.payload with
    | some text => exact emit_veiled hush held c _
    | none => exact warned_veiled hush held c _
  | binary =>
    have hconfig : (c.veiled hush held).config = c.config := rfl
    dsimp only
    rw [hconfig]
    cases c.config.profile.bidirectional with
    | true =>
      rw [if_pos rfl, if_pos rfl]
      exact emit_veiled hush held c _
    | false => rfl

theorem noteInterrupted_veiled (a : Assembly) (f : Fragment) :
    (c.veiled hush held).noteInterrupted a f = (c.noteInterrupted a f).veiled hush held := by
  unfold noteInterrupted
  cases a.interrupted? f with
  | none => rfl
  | some n =>
    unfold veiled
    dsimp only
    rw [hushed_concat (by simp [LogLine.messageInterrupted])]

theorem pushFragment_veiled (s : Session) (f : Fragment) :
    (c.veiled hush held).pushFragment s f = (c.pushFragment s f).veiled hush held := by
  unfold pushFragment
  rw [noteInterrupted_veiled]
  dsimp only
  -- What follows concerns the connection with the assembly behind the fragment.
  let d : Connection := { c.noteInterrupted s.assembly f with
    phase := .live { s with assembly := (s.assembly.push f).2 } }
  cases (s.assembly.push f).1 with
  | complete m => exact deliverMessage_veiled hush held d m
  | oversized received => exact warned_veiled hush held d _
  | incomplete | skipped => rfl

theorem takeFragment_veiled (s : Session) (f : Fragment) :
    (c.veiled hush held).takeFragment s f = (c.takeFragment s f).veiled hush held := by
  have hstate : (c.veiled hush held).state = c.state := rfl
  unfold takeFragment
  rw [hstate, pushFragment_veiled]
  split <;> rfl

theorem takeIn_veiled (s : Session) (a : Arrival) :
    (c.veiled hush held).takeIn ctx s a = (c.takeIn ctx s a).veiled hush held := by
  cases a with
  | fragment f => exact takeFragment_veiled hush held c _ f
  | heartbeat => rfl
  | closed code reason => exact endedBy_veiled ctx hush held c _
  | failed e => exact endedBy_veiled ctx hush held c _
  | ended => exact endedBy_veiled ctx hush held c _

theorem transmit_veiled (net : Network) (f : OutboundFrame) :
    (c.veiled hush held).transmit net f = ((c.transmit net f).1, (c.transmit net f).2.veiled hush held) := by
  have hfault : (c.veiled hush held).wire.sendFault? = c.wire.sendFault? := rfl
  unfold transmit Wire.send
  rw [hfault]
  cases c.wire.sendFault? with
  | some reason => rfl
  | none =>
    have hshort : (c.veiled hush held).wire.faults.short = c.wire.faults.short := rfl
    dsimp only
    rw [hshort]
    cases c.wire.faults.short with
    | none =>
      dsimp only
      rw [if_neg (Nat.lt_irrefl _), if_neg (Nat.lt_irrefl _)]
      rfl
    | some n =>
      dsimp only
      by_cases hless : min n f.length < f.length
      · rw [if_pos hless, if_pos hless]
        exact congrArg (Prod.mk none) (warned_veiled hush held
          { c with wire := { c.wire with
            sent := c.wire.sent ++ [f], inbound := c.wire.inbound ++ Wire.echo net f } } _)
      · rw [if_neg hless, if_neg hless]
        rfl

theorem afterSend_veiled (r : Option LinkError × Connection) :
    afterSend ctx (r.1, r.2.veiled hush held) =
      (afterSend ctx r).veiled hush held := by
  obtain ⟨fault, d⟩ := r
  cases fault with
  | none => rfl
  | some e => exact endedBy_veiled ctx hush held d _

/-! ### A turn -/

theorem reportOverrun_veiled (found : ConnectionState) :
    (c.veiled hush held).reportOverrun found = (c.reportOverrun found).veiled hush held := by
  have hnotice : (c.veiled hush held).overrunNotice = c.overrunNotice := rfl
  unfold reportOverrun
  rw [hnotice]
  split
  · exact emit_veiled hush held { c with overrunNotice := false } _
  · rfl

theorem sendText_veiled (f : OutboundFrame) :
    (c.veiled hush held).sendText ctx f =
      ((c.sendText ctx f).1, (c.sendText ctx f).2.veiled hush held) := by
  unfold sendText
  rw [transmit_veiled]
  obtain ⟨fault, d⟩ := c.transmit ctx.network f
  cases fault <;> rfl

theorem sendClose_veiled (s : Session) :
    (c.veiled hush held).sendClose ctx s =
      ((c.sendClose ctx s).1, (c.sendClose ctx s).2.veiled hush held) := by
  have hsend := transmit_veiled hush held { c with audio := c.audio.reset } ctx.network .close
  generalize hr : transmit ctx.network { c with audio := c.audio.reset } .close = r at hsend
  change transmit ctx.network { c.veiled hush held with audio := c.audio.reset } .close = _ at hsend
  have haudio : (c.veiled hush held).audio = c.audio := rfl
  unfold sendClose
  rw [haudio, hsend, hr]
  obtain ⟨fault, d⟩ := r
  cases fault <;> rfl

theorem sendAudio_veiled :
    (c.veiled hush held).sendAudio ctx = ((c.sendAudio ctx).1, (c.sendAudio ctx).2.veiled hush held) := by
  have haudio : (c.veiled hush held).audio = c.audio := rfl
  unfold sendAudio
  rw [haudio]
  obtain ⟨frame, audio⟩ := c.audio.takePending
  cases frame with
  | none => rfl
  | some bytes => exact transmit_veiled hush held { c with audio } ctx.network (.binary bytes)

theorem sendNext_veiled (s : Session) (found : ConnectionState) (next : Option OutboundFrame) :
    (c.veiled hush held).sendNext ctx s found next =
      ((c.sendNext ctx s found next).1, (c.sendNext ctx s found next).2.veiled hush held) := by
  cases next with
  | some f => exact sendText_veiled ctx hush held c f
  | none =>
    unfold sendNext
    dsimp only
    split
    · exact sendClose_veiled ctx hush held c s
    · exact sendAudio_veiled ctx hush held c

theorem turn_veiled (s : Session) :
    (c.veiled hush held).turn ctx s = ((c.turn ctx s).1, (c.turn ctx s).2.veiled hush held) := by
  have hreport := reportOverrun_veiled hush held { c with writable := false } c.state
  have hstate : (c.veiled hush held).state = c.state := rfl
  unfold turn
  rw [hstate]
  dsimp only
  split
  · rfl
  · let d := reportOverrun c.state { c with writable := false }
    have htake := congrArg takeText hreport
    refine (congrArg (fun r => sendNext ctx s c.state r.1 r.2) htake).trans ?_
    exact sendNext_veiled ctx hush held d.takeText.2 s c.state d.takeText.1

/-! ### The wire opens or does not -/

theorem connectFailed_veiled (e : LinkError) :
    (c.veiled hush held).connectFailed e = (c.connectFailed e).veiled hush held := by
  unfold connectFailed
  dsimp only
  rw [warned_veiled, moved_veiled]
  cases (c.warned e.message).moved .connecting .failed with
  | error found => rfl
  | ok d => exact congrArg driverGone (emit_veiled hush held d _)

theorem beginDisconnect_veiled :
    (c.veiled hush held).beginDisconnect =
      (c.beginDisconnect.1, c.beginDisconnect.2.veiled hush held) := by
  unfold beginDisconnect
  rw [moved_veiled]
  cases c.moved .connected .disconnecting <;> rfl

/-- The connection once its opening has been announced: a close that was asked for takes effect. -/
def announced (c : Connection) : Connection :=
  let c := if c.closeAfterConnect then c.beginDisconnect.2 else c
  { c with writable := c.writable || c.state == .disconnecting || c.hasOutboundWork }

theorem announced_veiled : (c.veiled hush held).announced = c.announced.veiled hush held := by
  have hclose : (c.veiled hush held).closeAfterConnect = c.closeAfterConnect := rfl
  unfold announced
  rw [hclose, beginDisconnect_veiled]
  split <;> rfl

theorem established_of_moved {d : Connection} (h : c.moved .connecting .connected = .ok d) :
    c.established ctx = announced (emit { d with
      phase := .live (.begin ctx d.config), wire := { d.wire with opened := true } } .connectSuccess) := by
  unfold established
  rw [h]
  rfl

theorem established_veiled :
    (c.veiled hush held).established ctx = (c.established ctx).veiled hush held := by
  cases hmoved : c.moved .connecting .connected with
  | error found =>
    unfold established
    rw [moved_veiled, hmoved]
    exact congrArg driverGone (warned_veiled hush held c _)
  | ok d =>
    have hmoved' : (c.veiled hush held).moved .connecting .connected = .ok (d.veiled hush held) := by
      rw [moved_veiled, hmoved]
      rfl
    have hemit := emit_veiled hush held { d with
      phase := .live (.begin ctx d.config), wire := { d.wire with opened := true } } .connectSuccess
    rw [established_of_moved ctx c hmoved, established_of_moved ctx (c.veiled hush held) hmoved']
    exact (congrArg announced hemit).trans (announced_veiled hush held _)

/-! ### Steps -/

theorem dial?_veiled (since : Nat) (delay : Option Nat) (e : Errand) :
    (c.veiled hush held).dial? ctx since delay e =
      (c.dial? ctx since delay e).map (veiled hush held) := by
  have hwire : (c.veiled hush held).wire = c.wire := rfl
  have hconfig : (c.veiled hush held).config = c.config := rfl
  unfold dial?
  cases e with
  | dial =>
    dsimp only
    rw [hwire, hconfig]
    cases c.wire.faults.invalid with
    | some reason => exact congrArg some (connectFailed_veiled hush held c _)
    | none =>
      dsimp only
      split
      · cases ctx.network.refusal with
        | some reason => exact congrArg some (connectFailed_veiled hush held c _)
        | none => exact congrArg some (established_veiled ctx hush held c)
      · rfl
  | connectTimeout =>
    dsimp only
    rw [hwire, hconfig]
    split
    · exact congrArg some (connectFailed_veiled hush held c _)
    · rfl
  | _ => rfl

theorem sendPing_veiled (s : Session) (p : PingTimer) :
    (c.veiled hush held).sendPing ctx s p = (c.sendPing ctx s p).veiled hush held := by
  have hsend := transmit_veiled hush held
    { c with phase := .live { s with ping := some (p.ticked ctx.now) } } ctx.network (.ping [])
  unfold sendPing
  dsimp only
  split
  · exact (congrArg (afterSend ctx) hsend).trans (afterSend_veiled ctx hush held _)
  · rfl

theorem attend?_veiled (s : Session) (e : Errand) :
    (c.veiled hush held).attend? ctx s e = (c.attend? ctx s e).map (veiled hush held) := by
  have hwire : (c.veiled hush held).wire = c.wire := rfl
  unfold attend?
  cases e with
  | turn =>
    have hwritable : (c.veiled hush held).writable = c.writable := rfl
    dsimp only
    rw [hwritable, turn_veiled, afterSend_veiled]
    split <;> rfl
  | arrival =>
    dsimp only
    rw [hwire]
    cases c.wire.inbound with
    | nil => rfl
    | cons a rest =>
      exact congrArg some (takeIn_veiled ctx hush held
        { c with wire := { c.wire with inbound := rest } } s a)
  | ping =>
    dsimp only
    rw [Option.map_map]
    congr 1
    funext p
    exact sendPing_veiled ctx hush held c s p
  | silence =>
    dsimp only
    rw [endedBy_veiled]
    split <;> rfl
  | closeTimeout =>
    dsimp only
    rw [endedBy_veiled]
    split <;> rfl
  | _ => rfl

/-- The driver sees to the same things, and in the same way. -/
theorem seeTo?_veiled (e : Errand) :
    (c.veiled hush held).seeTo? ctx e = (c.seeTo? ctx e).map (veiled hush held) := by
  have hphase : (c.veiled hush held).phase = c.phase := rfl
  unfold seeTo?
  rw [hphase]
  cases c.phase with
  | dialling since delay => exact dial?_veiled ctx hush held c since delay e
  | live s =>
    dsimp only
    rw [attend?_veiled]
    split
    · rfl
    · split <;> rfl
  | _ => rfl

theorem step?_veiled : (c.veiled hush held).step? ctx = (c.step? ctx).map (veiled hush held) := by
  rw [step?, step?, List.map_findSome?]
  congr 1
  funext e
  exact seeTo?_veiled ctx hush held c e

theorem driveFor_veiled (n : Nat) :
    driveFor ctx n (c.veiled hush held) = (driveFor ctx n c).veiled hush held := by
  induction n generalizing c with
  | zero => rfl
  | succ n ih =>
    unfold driveFor
    rw [step?_veiled]
    cases c.step? ctx with
    | none => rfl
    | some d => exact ih d

theorem drive_veiled : (c.veiled hush held).drive ctx = (c.drive ctx).veiled hush held :=
  driveFor_veiled ctx hush held c (c.workLeft ctx)

/-! ### Without the handle -/

/-- The connection without its handle. -/
def unheld (c : Connection) : Connection := { c with held := false }

theorem isDriven_unheld : c.unheld.isDriven = c.isDriven := rfl

theorem dropHandle_eq : c.dropHandle = if c.isDriven then c.unheld else c.unheld.abandonWaits := rfl

theorem seeTo?_unheld (e : Errand) : c.unheld.seeTo? ctx e = (c.seeTo? ctx e).map unheld :=
  seeTo?_veiled ctx false (fun _ => false) c e

theorem step?_unheld : c.unheld.step? ctx = (c.step? ctx).map unheld :=
  step?_veiled ctx false (fun _ => false) c

end VoiceBridge.Connection
