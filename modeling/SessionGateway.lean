import SessionGateway.Channel.Basic
import SessionGateway.Channel.Session
import SessionGateway.Channel.Handler
import SessionGateway.Channel.Table
import SessionGateway.ChannelOpen
import SessionGateway.Cluster
import SessionGateway.Config.Datum
import SessionGateway.Config.Dictionary
import SessionGateway.Config.Document
import SessionGateway.Config.Files
import SessionGateway.Config.Interval
import SessionGateway.Config.Settings
import SessionGateway.Connection.Assembly
import SessionGateway.Connection.Basic
import SessionGateway.Connection.Discard
import SessionGateway.Connection.Keepalive
import SessionGateway.Connection.Machine
import SessionGateway.Connection.Watch
import SessionGateway.Disk.Basic
import SessionGateway.Disk.Entry
import SessionGateway.Disk.Path
import SessionGateway.Gateway
import SessionGateway.Identity.Basic
import SessionGateway.Identity.Stored
import SessionGateway.Inbox
import SessionGateway.Json.Basic
import SessionGateway.Json.Printer
import SessionGateway.Json.Reader
import SessionGateway.Proofs.Channel.Answers
import SessionGateway.Proofs.Channel.Calls
import SessionGateway.Proofs.Channel.Cleanup
import SessionGateway.Proofs.Channel.Dispatch
import SessionGateway.Proofs.Channel.Exit
import SessionGateway.Proofs.Channel.Command
import SessionGateway.Proofs.Channel.History
import SessionGateway.Proofs.Channel.Requests
import SessionGateway.Proofs.Channel.Scripts
import SessionGateway.Proofs.Channel.Settled
import SessionGateway.Proofs.Channel.Steps
import SessionGateway.Proofs.Channel.Tasks
import SessionGateway.Proofs.Connection.Attempts
import SessionGateway.Proofs.Connection.Shutdown
import SessionGateway.Proofs.Connection.Steps
import SessionGateway.Proofs.Connection.Teardown
import SessionGateway.Proofs.Run
import SessionGateway.ReplySlot
import SessionGateway.Request
import SessionGateway.Simulation.Bench
import SessionGateway.Simulation.Basic
import SessionGateway.Simulation.Consumers
import SessionGateway.Simulation.Peer
import SessionGateway.Simulation.Prober
import SessionGateway.Simulation.Probing
import SessionGateway.Simulation.Provisioner
import SessionGateway.Simulation.Refusals
import SessionGateway.Simulation.Remote
import SessionGateway.Simulation.Roster
import SessionGateway.Simulation.Script
import SessionGateway.Simulation.Site
import SessionGateway.Simulation.Stream
import SessionGateway.Task.Forest
import SessionGateway.Task.Machine
import SessionGateway.Terminal.Mode
import SessionGateway.Terminal.SizeQueue
import SessionGateway.Text.Basic
import SessionGateway.Text.Unprintable
import SessionGateway.Toml.Document
import SessionGateway.Toml.Number
import SessionGateway.Toml.Printer
import SessionGateway.Toml.Reader
import SessionGateway.Toml.Text
import SessionGateway.Wire.Basic
import SessionGateway.Wire.Reader
import SessionGateway.Proofs.Terminal.SizeQueue
import SessionGateway.Proofs.Channel.Sizes
import SessionGateway.Proofs.Connection.Fates
import SessionGateway.Proofs.Connection.Readiness
import SessionGateway.Proofs.Channel.Origin
import SessionGateway.Proofs.Connection.Origin
import SessionGateway.Proofs.Channel.Alike
import SessionGateway.Proofs.Connection.Alike
import SessionGateway.Proofs.Gateway.Connections
import SessionGateway.Proofs.Gateway.Confinement
import SessionGateway.Proofs.Identity.Label
import SessionGateway.Proofs.Identity.PodName
import SessionGateway.Proofs.Connection.Pods
import SessionGateway.Proofs.Connection.Probes
import SessionGateway.Proofs.Gateway.Lifecycle
import SessionGateway.Proofs.Connection.Outlook
import SessionGateway.Proofs.Connection.Isolation
import SessionGateway.Proofs.Wire.Bytes
import SessionGateway.Proofs.Wire.Formats
import SessionGateway.Proofs.Terminal.Modes
import SessionGateway.Proofs.Terminal.Consumption
import SessionGateway.Proofs.Toml.Number
import SessionGateway.Proofs.Toml.Text
import SessionGateway.Proofs.Toml.Document
import SessionGateway.Proofs.Config.Datum
import SessionGateway.Proofs.Config.Document
import SessionGateway.Proofs.Disk.Write
import SessionGateway.Proofs.Config.Files
import SessionGateway.Proofs.Config.Interval
import SessionGateway.Proofs.Connection.PodNames
import SessionGateway.Proofs.Connection.Watch
import SessionGateway.Proofs.Connection.Watched
import SessionGateway.Proofs.Connection.Schedule
import SessionGateway.Proofs.Connection.Probing
import SessionGateway.Proofs.Channel.Records
import SessionGateway.Proofs.Connection.Records
import SessionGateway.Proofs.Connection.Refusals
import SessionGateway.Proofs.Connection.Assembly
import SessionGateway.Proofs.Gateway.Admission
import SessionGateway.Proofs.Channel.ClosingLine
import SessionGateway.Proofs.Connection.Openings
import SessionGateway.Proofs.Task.Running
import SessionGateway.Proofs.Gateway.Latecomers
import SessionGateway.Proofs.Gateway.Limits
import SessionGateway.Proofs.Task.Tokens
import SessionGateway.Proofs.Wire.Sequence
import SessionGateway.Proofs.Task.Callers
