import TitleDock.Command.Course
import TitleDock.Command.Errand
import TitleDock.Command.Line
import TitleDock.Command.Program
import TitleDock.Command.Watch
import TitleDock.Device
import TitleDock.DeviceInfo
import TitleDock.Digest
import TitleDock.Discovery.Beacon
import TitleDock.Discovery.Channel
import TitleDock.Discovery.Feed
import TitleDock.Discovery.Manual
import TitleDock.Discovery.Presence
import TitleDock.Discovery.Registry
import TitleDock.Discovery.Reply
import TitleDock.Discovery.Run
import TitleDock.Event.Console
import TitleDock.Event.Filter
import TitleDock.Event.Layout
import TitleDock.Event.Log
import TitleDock.Event.Sink
import TitleDock.Event.Throttle
import TitleDock.Event.Transfer
import TitleDock.Extraction
import TitleDock.Fault
import TitleDock.Files.Path
import TitleDock.Files.Tree
import TitleDock.Files.Disk
import TitleDock.Json.Glyph
import TitleDock.Json.Pretty
import TitleDock.Json.Token
import TitleDock.Json.Value
import TitleDock.Main
import TitleDock.Net.Ip
import TitleDock.Net.Socket
import TitleDock.Platform
import TitleDock.Remote.Canned
import TitleDock.Remote.Client
import TitleDock.Remote.Endpoint
import TitleDock.Remote.Http
import TitleDock.Remote.Scripted
import TitleDock.Remote.Simulated
import TitleDock.Settings.Environment
import TitleDock.Settings.Fields
import TitleDock.Settings.Layers
import TitleDock.Settings.Toml.Document
import TitleDock.Settings.Toml.Number
import TitleDock.Settings.Toml.Text
import TitleDock.Settings.Toml.Value
import TitleDock.Settings.Value
import TitleDock.Stream.Codec
import TitleDock.Stream.Progress
import TitleDock.Stream.Reader
import TitleDock.SystemError
import TitleDock.Text.Blank
import TitleDock.Text.Column
import TitleDock.Text.Decimal
import TitleDock.Text.Tenths
import TitleDock.Text.Utf8
import TitleDock.Title
import TitleDock.Transfer.Dock
import TitleDock.Transfer.Flight
import TitleDock.Transfer.Rehearsal
import TitleDock.Transfer.Spool
import TitleDock.Transfer.Verdict
import TitleDock.Proofs.Transfer.Journal
import TitleDock.Proofs.Transfer.Lifecycle
import TitleDock.Proofs.Transfer.Posture
import TitleDock.Proofs.Transfer.Spared
import TitleDock.Proofs.Discovery.Keyed
import TitleDock.Proofs.Transfer.Fence
import TitleDock.Proofs.Discovery.Replay
import TitleDock.Proofs.Files.Growth
import TitleDock.Proofs.Files.Names
import TitleDock.Proofs.Files.Stored
import TitleDock.Proofs.Transfer.Atomic
import TitleDock.Proofs.Transfer.Turn
import TitleDock.Proofs.Transfer.Passage
import TitleDock.Proofs.Transfer.Traces
import TitleDock.Proofs.Transfer.Connecting
import TitleDock.Proofs.Transfer.Holding
import TitleDock.Proofs.Transfer.Answers
import TitleDock.Proofs.Transfer.Polling
import TitleDock.Proofs.Remote.Serving
import TitleDock.Proofs.Transfer.Endurance
import TitleDock.Proofs.Transfer.Operation
import TitleDock.Proofs.Transfer.Cancelled
import TitleDock.Proofs.Stream.Reading
import TitleDock.Proofs.Transfer.Integrity
import TitleDock.Proofs.Transfer.Exclusion
import TitleDock.Proofs.Transfer.Refusals
import TitleDock.Proofs.Transfer.Outcome
import TitleDock.Proofs.Discovery.Following
import TitleDock.Proofs.Discovery.Observer
import TitleDock.Proofs.Discovery.Sweeping
import TitleDock.Proofs.Text.Utf8
import TitleDock.Proofs.Text.Decimal
import TitleDock.Proofs.Json.Layout
import TitleDock.Proofs.Json.Parsing
import TitleDock.Proofs.Json.Spelling
import TitleDock.Proofs.Json.Writing
import TitleDock.Proofs.Json.Wire
import TitleDock.Proofs.Json.Meaning
import TitleDock.Proofs.Json.Members
import TitleDock.Proofs.Json.Decoding
import TitleDock.Proofs.Text.Pieces
import TitleDock.Proofs.Remote.Url
import TitleDock.Proofs.Settings.Merging
import TitleDock.Proofs.Settings.Documents
import TitleDock.Proofs.Settings.Fields
import TitleDock.Proofs.Settings.Variables
import TitleDock.Proofs.Settings.Precedence
import TitleDock.Proofs.Command.Discipline
import TitleDock.Proofs.Command.Steering
import TitleDock.Proofs.Command.Fetching
import TitleDock.Proofs.Discovery.Replies
import TitleDock.Proofs.Event.Spacing
import TitleDock.Proofs.Event.Tenths
import TitleDock.Proofs.Stream.Counting
import TitleDock.Proofs.Net.Literal
import TitleDock.Proofs.Net.Order
import TitleDock.Proofs.Discovery.Adding
import TitleDock.Proofs.Net.Printing
import TitleDock.Proofs.Stream.Chunks
import TitleDock.Proofs.Digest
import TitleDock.Proofs.Discovery.Addresses
import TitleDock.Proofs.Discovery.Feeding
