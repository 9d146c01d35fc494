import Switchboard.Builtin
import Switchboard.ByteOrder
import Switchboard.Bytes
import Switchboard.Codec
import Switchboard.CommandLine.Command
import Switchboard.CommandLine.Help
import Switchboard.CommandLine.Option
import Switchboard.Config.Basic
import Switchboard.Config.File
import Switchboard.Config.Reader
import Switchboard.Config.Writer
import Switchboard.Dispatcher
import Switchboard.Host.Basic
import Switchboard.Host.FilePath
import Switchboard.Host.FileTree
import Switchboard.Host.OsError
import Switchboard.Main
import Switchboard.Network.Address
import Switchboard.Network.Client
import Switchboard.Network.Config
import Switchboard.Network.Connection
import Switchboard.Network.ConnectionError
import Switchboard.Network.Framing
import Switchboard.Network.Session
import Switchboard.Network.Stream
import Switchboard.Number.Decimal
import Switchboard.Number.Double
import Switchboard.Payload
import Switchboard.Payload.Binary
import Switchboard.Payload.Json.Fault
import Switchboard.Payload.Json.Number
import Switchboard.Payload.Json.Reader
import Switchboard.Payload.Json.Skip
import Switchboard.Payload.Json.Text
import Switchboard.Payload.Json.Writer
import Switchboard.Ping.Exchange
import Switchboard.Ping.Pinger
import Switchboard.Processor
import Switchboard.Program
import Switchboard.Registry
import Switchboard.Router.Route
import Switchboard.Router.Settle
import Switchboard.Router.State
import Switchboard.Schema.Basic
import Switchboard.Schema.Describe
import Switchboard.Schema.Mismatch
import Switchboard.Schema.Samples
import Switchboard.Schema.Shape
import Switchboard.Schema.Table
import Switchboard.Server.Listener
import Switchboard.Server.Responder
import Switchboard.Server.Served
import Switchboard.Text.Hidden
import Switchboard.Text.Layout
import Switchboard.Text.Quoted
import Switchboard.Text.Utf8
import Switchboard.Toml.Character
import Switchboard.Toml.Reader
import Switchboard.Toml.Scalar
import Switchboard.Toml.Table
import Switchboard.Toml.Text
import Switchboard.Toml.Value
import Switchboard.Toml.Writer
import Switchboard.Proofs.Framing.Parse
import Switchboard.Proofs.Framing.Intake
import Switchboard.Proofs.Connection.Receive
import Switchboard.Proofs.Processor.History
import Switchboard.Proofs.Processor.Delivery
import Switchboard.Proofs.Router.Run
import Switchboard.Proofs.Router.Accounting
import Switchboard.Proofs.Router.Routing
import Switchboard.Proofs.Router.Workers
import Switchboard.Proofs.Connection.Conservation
import Switchboard.Proofs.Framing.Transfer
import Switchboard.Proofs.Connection.Expected
import Switchboard.Proofs.Connection.Sending
import Switchboard.Proofs.Server.Run
import Switchboard.Proofs.Server.Conversation
import Switchboard.Proofs.Server.Answers
import Switchboard.Proofs.Payload.Binary
import Switchboard.Proofs.Processor.RoundTrip
import Switchboard.Proofs.Server.Ending
import Switchboard.Proofs.Server.Refinement
import Switchboard.Proofs.Text.Utf8
import Switchboard.Proofs.Schema.Table
import Switchboard.Proofs.Payload.Basic
import Switchboard.Proofs.Payload.Json.Text
import Switchboard.Proofs.Payload.Json.Number
import Switchboard.Proofs.Payload.Json.Value
import Switchboard.Proofs.Payload.Json.Writable
import Switchboard.Proofs.Payload.RoundTrip
import Switchboard.Proofs.Payload.Measured
import Switchboard.Proofs.Registry.Search
import Switchboard.Proofs.Registry.Capacity
import Switchboard.Proofs.Processor.Passthrough
import Switchboard.Proofs.Processor.Namesake
import Switchboard.Proofs.Registry.InPlace
import Switchboard.Proofs.Client.Transmission
import Switchboard.Proofs.Router.Shutdown
import Switchboard.Proofs.Processor.Agreement
import Switchboard.Proofs.Toml.Text
import Switchboard.Proofs.Toml.Scalar
import Switchboard.Proofs.Toml.Document
import Switchboard.Proofs.Toml.Table
import Switchboard.Proofs.Host.FileTree
import Switchboard.Proofs.Config.Setting
import Switchboard.Proofs.Config.Selection
import Switchboard.Proofs.Config.Completion
import Switchboard.Proofs.Config.Saved
import Switchboard.Proofs.Server.Smooth
import Switchboard.Proofs.Ping.Messages
import Switchboard.Proofs.Ping.Plan
import Switchboard.Proofs.Ping.Talk
import Switchboard.Proofs.Ping.Exchange
import Switchboard.Proofs.Ping.Progress
import Switchboard.Proofs.Router.Containment
import Switchboard.Proofs.Connection.Cancellation
import Switchboard.Proofs.Server.Behaviour
import Switchboard.Proofs.Server.Bounded
import Switchboard.Proofs.Framing.Refusal
import Switchboard.Proofs.Payload.Grammar
import Switchboard.Proofs.Processor.Grammar
import Switchboard.Proofs.Session.Mailbox
import Switchboard.Proofs.Session.Copies
import Switchboard.Proofs.Server.Afterwards
import Switchboard.Proofs.Connection.Occupancy
