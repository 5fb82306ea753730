import VoiceBridge.Audio.Buffer
import VoiceBridge.Bridge.Connection
import VoiceBridge.Bridge.Drive
import VoiceBridge.Bridge.Ending
import VoiceBridge.Bridge.Error
import VoiceBridge.Bridge.Handle
import VoiceBridge.Bridge.Scenario
import VoiceBridge.Bridge.Service
import VoiceBridge.Bridge.Stream
import VoiceBridge.Bridge.Turn
import VoiceBridge.Bridge.Wire
import VoiceBridge.Bridge.WorkQueues
import VoiceBridge.Codec.Base64
import VoiceBridge.Codec.Sha1
import VoiceBridge.Config.Connection
import VoiceBridge.Config.Credentials
import VoiceBridge.Config.Decode
import VoiceBridge.Config.Encode
import VoiceBridge.Config.Error
import VoiceBridge.Config.LogFilter
import VoiceBridge.Config.Profile
import VoiceBridge.Config.Service
import VoiceBridge.Config.Value
import VoiceBridge.Connection.Event
import VoiceBridge.Connection.LinkError
import VoiceBridge.Connection.State
import VoiceBridge.Log
import VoiceBridge.Main
import VoiceBridge.Message.Assembly
import VoiceBridge.Message.Fragment
import VoiceBridge.Message.Outbound
import VoiceBridge.Probe.CommandLine
import VoiceBridge.Probe.FreshId
import VoiceBridge.Probe.Inbox
import VoiceBridge.Probe.Program
import VoiceBridge.Probe.Run
import VoiceBridge.Probe.Settings
import VoiceBridge.Probe.SettingsFile
import VoiceBridge.Proofs.Audio.Account
import VoiceBridge.Proofs.Audio.Buffer
import VoiceBridge.Proofs.Audio.ChunkQueue
import VoiceBridge.Proofs.Audio.History
import VoiceBridge.Proofs.Audio.Storage
import VoiceBridge.Proofs.Codec.Base64
import VoiceBridge.Proofs.Config.Environment
import VoiceBridge.Proofs.Config.RoundTrip
import VoiceBridge.Proofs.Connection.Beat
import VoiceBridge.Proofs.Connection.Call
import VoiceBridge.Proofs.Connection.Calm
import VoiceBridge.Proofs.Connection.Errand
import VoiceBridge.Proofs.Connection.Hand
import VoiceBridge.Proofs.Connection.Owed
import VoiceBridge.Proofs.Connection.Parted
import VoiceBridge.Proofs.Connection.Progress
import VoiceBridge.Proofs.Connection.SameFor
import VoiceBridge.Proofs.Connection.Standing
import VoiceBridge.Proofs.Connection.Veiled
import VoiceBridge.Proofs.Connection.Wiring
import VoiceBridge.Proofs.Connection.WorkLeft
import VoiceBridge.Proofs.Message.Capacity
import VoiceBridge.Proofs.Message.History
import VoiceBridge.Proofs.Message.Shares
import VoiceBridge.Proofs.Message.Split
import VoiceBridge.Proofs.Probe.Course
import VoiceBridge.Proofs.Probe.Outcome
import VoiceBridge.Proofs.Queues.History
import VoiceBridge.Proofs.Run.Agreement
import VoiceBridge.Proofs.Run.Along
import VoiceBridge.Proofs.Run.Announced
import VoiceBridge.Proofs.Run.AtRest
import VoiceBridge.Proofs.Run.AudioAccount
import VoiceBridge.Proofs.Run.AudioHistory
import VoiceBridge.Proofs.Run.Clock
import VoiceBridge.Proofs.Run.CloseAgain
import VoiceBridge.Proofs.Run.CloseMidway
import VoiceBridge.Proofs.Run.Closing
import VoiceBridge.Proofs.Run.Completion
import VoiceBridge.Proofs.Run.Contained
import VoiceBridge.Proofs.Run.DeferredClose
import VoiceBridge.Proofs.Run.Delivery
import VoiceBridge.Proofs.Run.Departing
import VoiceBridge.Proofs.Run.Expiry
import VoiceBridge.Proofs.Run.Finish
import VoiceBridge.Proofs.Run.Flush
import VoiceBridge.Proofs.Run.Halted
import VoiceBridge.Proofs.Run.Inbound
import VoiceBridge.Proofs.Run.Interrupted
import VoiceBridge.Proofs.Run.Keepalive
import VoiceBridge.Proofs.Run.LastEvent
import VoiceBridge.Proofs.Run.LeftAlone
import VoiceBridge.Proofs.Run.LetGo
import VoiceBridge.Proofs.Run.Midway
import VoiceBridge.Proofs.Run.Named
import VoiceBridge.Proofs.Run.Outbox
import VoiceBridge.Proofs.Run.OverrunNotice
import VoiceBridge.Proofs.Run.PickUp
import VoiceBridge.Proofs.Run.Play
import VoiceBridge.Proofs.Run.Quiescence
import VoiceBridge.Proofs.Run.Recorded
import VoiceBridge.Proofs.Run.Refusal
import VoiceBridge.Proofs.Run.Rest
import VoiceBridge.Proofs.Run.Roster
import VoiceBridge.Proofs.Run.Separate
import VoiceBridge.Proofs.Run.Settle
import VoiceBridge.Proofs.Run.Streaming
import VoiceBridge.Proofs.Run.Summoned
import VoiceBridge.Proofs.Run.Timers
import VoiceBridge.Proofs.Run.Verdict
import VoiceBridge.Proofs.Run.WakeUp
import VoiceBridge.Proofs.Web.Authorization
import VoiceBridge.Span
import VoiceBridge.Text.Blank
import VoiceBridge.Text.Bytes
import VoiceBridge.Text.Decimal
import VoiceBridge.Text.Hidden
import VoiceBridge.Text.Quoted
import VoiceBridge.Toml.Blank
import VoiceBridge.Toml.Document
import VoiceBridge.Toml.Item
import VoiceBridge.Toml.Key
import VoiceBridge.Toml.Moment
import VoiceBridge.Toml.Number
import VoiceBridge.Toml.Table
import VoiceBridge.Toml.Text
import VoiceBridge.Web.Endpoint
import VoiceBridge.Web.Error
import VoiceBridge.Web.Frame
import VoiceBridge.Web.Handshake
import VoiceBridge.Web.Reply
import VoiceBridge.Web.Request
import VoiceBridge.Web.Script
import VoiceBridge.Web.Socket
import VoiceBridge.Web.Status
import VoiceBridge.Web.Target
