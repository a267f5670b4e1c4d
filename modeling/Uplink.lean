import Uplink.Bench.Report
import Uplink.Bench.Schedule
import Uplink.Bench.Script
import Uplink.Bench.World
import Uplink.Bytes
import Uplink.ClientInfo
import Uplink.Config
import Uplink.Config.Document
import Uplink.Config.Environment
import Uplink.Connection.Blueprint
import Uplink.Connection.Owner
import Uplink.Connection.State
import Uplink.Connection.Task
import Uplink.Connection.Work
import Uplink.Counters
import Uplink.Data
import Uplink.Deadline
import Uplink.Duration
import Uplink.Duration.Notation
import Uplink.Duration.Spoken
import Uplink.Endpoint
import Uplink.Error
import Uplink.Frame
import Uplink.Frame.LengthPrefixed
import Uplink.KeepAlive
import Uplink.Log.Filter
import Uplink.Log.Layout
import Uplink.Log.Level
import Uplink.Log.Record
import Uplink.Log.Session
import Uplink.Log.Style
import Uplink.Net.Address
import Uplink.Net.Network
import Uplink.Net.Stream
import Uplink.Node
import Uplink.Notice
import Uplink.OsError
import Uplink.Pool.Arena
import Uplink.Pool.Traffic
import Uplink.Proofs.Accounts
import Uplink.Proofs.Activity
import Uplink.Proofs.Admission
import Uplink.Proofs.Arena
import Uplink.Proofs.Attribution
import Uplink.Proofs.Block
import Uplink.Proofs.Choice
import Uplink.Proofs.Chunks
import Uplink.Proofs.ClockRange
import Uplink.Proofs.CloseProtocol
import Uplink.Proofs.Closing
import Uplink.Proofs.Counting
import Uplink.Proofs.Custody
import Uplink.Proofs.Deadlines
import Uplink.Proofs.Deliveries
import Uplink.Proofs.Delivery
import Uplink.Proofs.Discipline
import Uplink.Proofs.Duration.Grammar
import Uplink.Proofs.Duration.RoundTrip
import Uplink.Proofs.Effects
import Uplink.Proofs.Exchange
import Uplink.Proofs.Failing
import Uplink.Proofs.Firing
import Uplink.Proofs.Frames
import Uplink.Proofs.Framing
import Uplink.Proofs.FramingAgreement
import Uplink.Proofs.Guards
import Uplink.Proofs.Handling
import Uplink.Proofs.IdleDetection
import Uplink.Proofs.IdleSchedule
import Uplink.Proofs.Idleness
import Uplink.Proofs.Intents
import Uplink.Proofs.Line
import Uplink.Proofs.Options
import Uplink.Proofs.Order
import Uplink.Proofs.Parcels
import Uplink.Proofs.Passing
import Uplink.Proofs.Placing
import Uplink.Proofs.PoolState
import Uplink.Proofs.Receipts
import Uplink.Proofs.Record
import Uplink.Proofs.Rounds
import Uplink.Proofs.Scene
import Uplink.Proofs.Sending
import Uplink.Proofs.Serving
import Uplink.Proofs.Settings
import Uplink.Proofs.SlotHistory
import Uplink.Proofs.Sound
import Uplink.Proofs.Toml.Document
import Uplink.Proofs.Toml.Reading
import Uplink.Proofs.Turns
import Uplink.Proofs.Wake
import Uplink.Proofs.Wire
import Uplink.Proofs.WriteProgress
import Uplink.ReceiveBlock
import Uplink.Session
import Uplink.SocketOptions
import Uplink.Status
import Uplink.Text.Blank
import Uplink.Text.Digit
import Uplink.Toml.Document
import Uplink.Toml.Printer
import Uplink.Toml.Scalar
import Uplink.Toml.Table
import Uplink.Toml.Text
import Uplink.Write
