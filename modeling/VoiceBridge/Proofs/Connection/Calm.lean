import Mathlib.Logic.Basic
import VoiceBridge.Bridge.Scenario
import VoiceBridge.Proofs.Connection.Veiled

/-!
# A callback that fails

A callback that fails on an event leaves a line in the log. `calm` takes these lines away, and with them the
failures that would come. Whatever happens to a connection, it happens to the calm one in the same way, and
the same answers are given: for the driver that is a case of `veiled`, and the calls of the caller and of the
far end are gone through here.
-/

namespace VoiceBridge.Connection

/-- The connection as it would be if its callback never failed. -/
def calm (c : Connection) : Connection :=
  { c with panicsOn := [], log := c.log.filter (·.level ≠ .error) }

/-- The outcome of a call, with the connection as it would be if its callback never failed. -/
def calmed {α : Type*} (r : α × Connection × Requests) : α × Connection × Requests :=
  (r.1, r.2.1.calm, r.2.2)

variable (ctx : LoopContext) (c : Connection) (q : Requests)

/-! ### The driver -/

theorem seeTo?_calm (e : Errand) : c.calm.seeTo? ctx e = (c.seeTo? ctx e).map calm :=
  seeTo?_veiled ctx true (fun h => h) c e

theorem drive_calm : c.calm.drive ctx = (c.drive ctx).calm :=
  drive_veiled ctx true (fun h => h) c

/-! ### Calls -/

theorem warned_calm (text : String) : c.calm.warned text = (c.warned text).calm :=
  warned_veiled true (fun h => h) c text

theorem requestWrite_calm : c.calm.requestWrite q = calmed (c.requestWrite q) := by
  have hid : q.enqueue .write c.calm.id = q.enqueue .write c.id := rfl
  have hqueued : c.calm.writeQueued = c.writeQueued := rfl
  unfold requestWrite
  rw [hqueued, hid]
  split
  · rfl
  · obtain ⟨answer, q'⟩ := q.enqueue .write c.id
    cases answer <;> rfl

theorem connect_calm : c.calm.connect q = calmed (c.connect q) := by
  have hid : q.enqueue .connect c.calm.id = q.enqueue .connect c.id := rfl
  have hstate : c.calm.state = c.state := rfl
  unfold connect
  rw [hstate, hid]
  split
  · rfl
  · obtain ⟨answer, q'⟩ := q.enqueue .connect c.id
    cases answer <;> rfl

theorem close_calm : c.calm.close q = calmed (c.close q) := by
  have hstate : c.calm.state = c.state := rfl
  have hid : q.enqueue .disconnect c.calm.id = q.enqueue .disconnect c.id := rfl
  have hdisconnect : c.calm.beginDisconnect = (c.beginDisconnect.1, c.beginDisconnect.2.calm) :=
    beginDisconnect_veiled true (fun h => h) c
  unfold close
  rw [hstate, hdisconnect]
  cases c.state with
  | idle =>
    have hrequested : c.calm.connectRequested = c.connectRequested := rfl
    dsimp only
    rw [hrequested]
    split <;> rfl
  | _ => rfl

theorem closeWithCompletion_calm : c.calm.closeWithCompletion q = calmed (c.closeWithCompletion q) := by
  unfold closeWithCompletion
  rw [close_calm]
  obtain ⟨answer, d, q'⟩ := c.close q
  cases answer <;> rfl

theorem finish_calm : c.calm.finish q = calmed (c.finish q) := by
  have hstate : c.calm.state = c.state := rfl
  unfold finish
  rw [hstate]
  split
  · rfl
  · exact requestWrite_calm { c with
      graceful := true, outbox := c.outbox ++ [c.config.profile.finish.frame] } q

theorem queueText_calm (s : String) : c.calm.queueText s q = calmed (c.queueText s q) := by
  have hstate : c.calm.state = c.state := rfl
  unfold queueText
  rw [hstate]
  split <;> first | rfl | exact requestWrite_calm { c with outbox := c.outbox ++ [.text s] } q

theorem writeAudio_calm (chunk : Bytes) :
    c.calm.writeAudio chunk = ((c.writeAudio chunk).1, (c.writeAudio chunk).2.calm) := by
  have haudio : c.calm.audio = c.audio := rfl
  unfold writeAudio
  rw [haudio]
  obtain ⟨outcome, audio⟩ := c.audio.write chunk
  cases outcome with
  | written => rfl
  | overrun dropped stored first =>
    cases first with
    | false => rfl
    | true =>
      exact congrArg (fun d : Connection => (_, { d with overrunNotice := true }))
        (warned_calm { c with audio } _)

theorem writeChunks_calm (chunks : List Bytes) :
    c.calm.writeChunks chunks = ((c.writeChunks chunks).1, (c.writeChunks chunks).2.calm) := by
  induction chunks generalizing c with
  | nil => rfl
  | cons chunk rest ih =>
    unfold writeChunks
    rw [writeAudio_calm]
    dsimp only
    rw [ih]

theorem releaseAudio_calm :
    c.calm.releaseAudio q = ((c.releaseAudio q).1.calm, (c.releaseAudio q).2) := by
  have hcond : ((c.calm.audio.hasPending || c.calm.overrunNotice) && c.calm.isConnected) =
      ((c.audio.hasPending || c.overrunNotice) && c.isConnected) := rfl
  unfold releaseAudio
  rw [hcond, requestWrite_calm]
  split <;> rfl

theorem dropHandle_calm : c.calm.dropHandle = c.dropHandle.calm := by
  have hdriven : c.calm.isDriven = c.isDriven := rfl
  rw [dropHandle_eq, dropHandle_eq, hdriven]
  split <;> rfl

theorem stream_calm (closeAfter : Option Nat) (frames : List Bytes) (r : StreamReport) :
    c.calm.stream q closeAfter r frames = calmed (c.stream q closeAfter r frames) := by
  induction frames generalizing c q r with
  | nil => rfl
  | cons frame rest ih =>
    have hopen : c.calm.isConnected = c.isConnected := rfl
    unfold stream
    rw [hopen]
    split
    · exact congrArg (fun d => (r, d, q)) (warned_calm c _)
    · unfold streamFrame
      dsimp only
      rw [writeAudio_calm]
      dsimp only
      rw [releaseAudio_calm]
      dsimp only
      split
      · rw [close_calm]
        exact ih ..
      · exact ih ..

/-- A call is answered alike and leaves the same requests. -/
theorem perform_calm (call : Call) : c.calm.perform q call = calmed (c.perform q call) := by
  cases call with
  | connect => exact congrArg Answer.ofCall (connect_calm c q)
  | close => exact congrArg Answer.ofCall (close_calm c q)
  | closeWithCompletion => exact congrArg Answer.ofCall (closeWithCompletion_calm c q)
  | finish => exact congrArg Answer.ofCall (finish_calm c q)
  | text s => exact congrArg Answer.ofCall (queueText_calm c q s)
  | audio chunks text =>
    unfold perform
    dsimp only
    rw [writeChunks_calm]
    cases text with
    | none =>
      dsimp only
      rw [releaseAudio_calm]
      rfl
    | some s =>
      dsimp only
      rw [queueText_calm]
      unfold calmed
      dsimp only
      rw [releaseAudio_calm]
      rfl
  | slot bytes commit =>
    have hcommit : c.calm.commitSlot bytes commit =
        ((c.commitSlot bytes commit).1, (c.commitSlot bytes commit).2.calm) := rfl
    unfold perform
    dsimp only
    rw [hcommit]
    dsimp only
    rw [releaseAudio_calm]
    rfl
  | stream settings pcm closeAfter =>
    unfold perform
    dsimp only
    rw [stream_calm]
    rfl
  | inspect | target => rfl
  | drop => exact congrArg (fun d => (Answer.done, d, q)) (dropHandle_calm c)

theorem farCall_calm (call : FarCall) :
    c.calm.farCall call = ((c.farCall call).1, (c.farCall call).2.calm) := by
  have hdriven : c.calm.isDriven = c.isDriven := rfl
  cases call with
  | send arrivals =>
    unfold farCall
    dsimp only
    rw [hdriven]
    split <;> rfl
  | _ => rfl

end VoiceBridge.Connection
