import VoiceBridge.Bridge.Handle
import VoiceBridge.Config.Encode

/-!
# Streaming audio

PCM of 16 bits goes into the buffer of a connection one frame at a time, after a message that
announces its format. Streaming stops where the connection is no longer connected.
-/

namespace VoiceBridge

/-- The format of the audio and the pace at which it is written. -/
structure StreamSettings where
  sampleRate : Nat := 8000
  channels : Nat := 1
  frameMillis : Nat := 20
  deriving Repr, DecidableEq, Inhabited

/-- What was streamed. -/
structure StreamReport where
  frames : Nat := 0
  bytes : Nat := 0
  overruns : Nat := 0
  deriving Repr, DecidableEq, Inhabited

namespace StreamSettings

/-- The bytes of one frame, at least one sample of 16 bits. -/
def frameBytes (s : StreamSettings) : Nat :=
  max (s.sampleRate * s.frameMillis / 1000 * s.channels * 2) 2

theorem frameBytes_pos (s : StreamSettings) : 0 < s.frameBytes := by
  unfold frameBytes; omega

/-- The time one frame lasts. -/
def frameSpan (s : StreamSettings) : Span := .ofMillis s.frameMillis

/-- The message that announces the format. -/
def startMessage (s : StreamSettings) (sessionId : String) : Value :=
  .record [
    ("type", .text "start"),
    ("session_id", .text sessionId),
    ("audio", .record [
      ("encoding", .text "linear16"),
      ("sample_rate", .nat s.sampleRate),
      ("channels", .nat s.channels)])]

end StreamSettings

/-- Cut bytes into pieces of `size` bytes, the last of which may be shorter. -/
def chunks (size : Nat) (h : 0 < size) (bytes : Bytes) : List Bytes :=
  match bytes with
  | [] => []
  | b :: rest => (b :: rest).take size :: chunks size h ((b :: rest).drop size)
termination_by bytes.length
decreasing_by simp only [List.length_drop, List.length_cons]; omega

/-- The pieces make up the whole. -/
theorem flatten_chunks (size : Nat) (h : 0 < size) (bytes : Bytes) :
    (chunks size h bytes).flatten = bytes := by
  fun_induction chunks size h bytes with
  | case1 => rfl
  | case2 b rest ih => rw [List.flatten_cons, ih, List.take_append_drop]

theorem length_le_of_mem_chunks (size : Nat) (h : 0 < size) (bytes : Bytes) :
    ∀ piece ∈ chunks size h bytes, piece.length ≤ size := by
  fun_induction chunks size h bytes with
  | case1 => intro piece hp; cases hp
  | case2 b rest ih =>
    intro piece hp
    cases hp with
    | head => exact List.length_take_le _ _
    | tail _ hp => exact ih piece hp

/-- The frames of some PCM. -/
def StreamSettings.cut (s : StreamSettings) (pcm : Bytes) : List Bytes :=
  chunks s.frameBytes s.frameBytes_pos pcm

/-- Count one more frame. -/
def StreamReport.add (r : StreamReport) (o : WriteOutcome) : StreamReport :=
  { frames := r.frames + 1
    bytes := r.bytes + o.stored
    overruns := match o with
      | .written _ => r.overruns
      | .overrun .. => r.overruns + 1 }

namespace Connection

/-- Write one frame of a stream. -/
def streamFrame (c : Connection) (q : Requests) (r : StreamReport) (frame : Bytes) :
    StreamReport × Connection × Requests :=
  let (o, c) := c.writeAudio frame
  (r.add o, c.releaseAudio q)

/-- Note that a stream ends before its time. -/
def streamCut (c : Connection) (r : StreamReport) : Connection :=
  let state := c.state.name
  let frames := r.frames
  c.warned s!"connection is {state}; stopping after {frames} frames"

/-- Write frames without a pause, closing the connection after frame `closeAfter`. -/
def stream (c : Connection) (q : Requests) (closeAfter : Option Nat) (r : StreamReport) :
    List Bytes → StreamReport × Connection × Requests
  | [] => (r, c, q)
  | frame :: rest =>
    if !c.isConnected then (r, c.streamCut r, q)
    else
      let (r, c, q) := c.streamFrame q r frame
      let (c, q) := if closeAfter = some r.frames then (c.close q).2 else (c, q)
      c.stream q closeAfter r rest

end Connection

end VoiceBridge
