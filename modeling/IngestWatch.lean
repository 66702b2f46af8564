import IngestWatch.Calendar
import IngestWatch.Calendar.Zone
import IngestWatch.Codec
import IngestWatch.Codec.Record
import IngestWatch.CommandLine
import IngestWatch.CommandLine.Completion
import IngestWatch.CommandLine.Completion.Bash
import IngestWatch.CommandLine.Completion.Elvish
import IngestWatch.CommandLine.Completion.Fish
import IngestWatch.CommandLine.Completion.PowerShell
import IngestWatch.CommandLine.Completion.Zsh
import IngestWatch.CommandLine.Fault
import IngestWatch.CommandLine.Help
import IngestWatch.CommandLine.Reader
import IngestWatch.Config
import IngestWatch.Config.Check
import IngestWatch.Config.Fault
import IngestWatch.Config.Load
import IngestWatch.Config.Overrides
import IngestWatch.Config.Template
import IngestWatch.Decimal.Binary64
import IngestWatch.Decimal.Positional
import IngestWatch.Decimal.Shortest
import IngestWatch.Decimal.Whole
import IngestWatch.Dialogue
import IngestWatch.Disk
import IngestWatch.Fetch
import IngestWatch.Grid
import IngestWatch.History
import IngestWatch.Http.Client
import IngestWatch.Http.Exchange
import IngestWatch.Http.MediaType
import IngestWatch.Http.Network
import IngestWatch.Http.Network.Progress
import IngestWatch.Http.Wire
import IngestWatch.Invocation
import IngestWatch.Invocation.Commands
import IngestWatch.Invocation.Reader
import IngestWatch.Json
import IngestWatch.Json.Fault
import IngestWatch.Json.Reader
import IngestWatch.Json.Scan
import IngestWatch.Json.Skip
import IngestWatch.Json.Writer
import IngestWatch.Keyed
import IngestWatch.Log.Event
import IngestWatch.Log.Filter
import IngestWatch.Log.Format
import IngestWatch.Log.Sink
import IngestWatch.Main
import IngestWatch.Mismatch
import IngestWatch.Polling
import IngestWatch.Polling.ByHand
import IngestWatch.Polling.Timed
import IngestWatch.Program.Completions
import IngestWatch.Program.Events
import IngestWatch.Program.Init
import IngestWatch.Program.Lookup
import IngestWatch.Program.Remark
import IngestWatch.Program.Run
import IngestWatch.Program.Settings
import IngestWatch.Program.Watch
import IngestWatch.Program.World
import IngestWatch.Proofs.Calendar.Dates
import IngestWatch.Proofs.Calendar.Readings
import IngestWatch.Proofs.History
import IngestWatch.Proofs.Polling.Alike
import IngestWatch.Proofs.Polling.Chains
import IngestWatch.Proofs.Polling.Delays
import IngestWatch.Proofs.Polling.InTime
import IngestWatch.Proofs.Polling.Log
import IngestWatch.Proofs.Polling.Observers
import IngestWatch.Proofs.Polling.Scheduling
import IngestWatch.Proofs.Polling.Sessions
import IngestWatch.Proofs.Timer.Account
import IngestWatch.Proofs.Timer.Runs
import IngestWatch.Proofs.Timer.Script
import IngestWatch.Proofs.Timer.Timeline
import IngestWatch.Proofs.Window
import IngestWatch.Proofs.Window.Days
import IngestWatch.Report
import IngestWatch.Target
import IngestWatch.Text.Blank
import IngestWatch.Text.Charset
import IngestWatch.Text.CodePage.Table
import IngestWatch.Text.Direction
import IngestWatch.Text.Direction.Table
import IngestWatch.Text.Joining
import IngestWatch.Text.Marks
import IngestWatch.Text.Normal
import IngestWatch.Text.Normal.Table
import IngestWatch.Text.Quoted
import IngestWatch.Text.Quoted.Table
import IngestWatch.Text.Ranges
import IngestWatch.Text.Utf8
import IngestWatch.Text.Width
import IngestWatch.Text.Width.Table
import IngestWatch.Timer.Job
import IngestWatch.Timer.Queue
import IngestWatch.Timer.Timeline
import IngestWatch.Toml
import IngestWatch.Toml.Blank
import IngestWatch.Toml.Document
import IngestWatch.Toml.Moment
import IngestWatch.Toml.Number
import IngestWatch.Toml.Quote
import IngestWatch.Toml.Tree
import IngestWatch.Toml.Trouble
import IngestWatch.Transport
import IngestWatch.Url
import IngestWatch.Url.Address
import IngestWatch.Url.Domain
import IngestWatch.Url.Domain.Table
import IngestWatch.Url.Dots
import IngestWatch.Url.Percent
import IngestWatch.Url.Punycode
import IngestWatch.Url.Reader
import IngestWatch.Url.Reference
import IngestWatch.Window
import IngestWatch.Proofs.Outcome
import IngestWatch.Proofs.Advance
import IngestWatch.Proofs.Target
import IngestWatch.Proofs.Timer.ByHand
import IngestWatch.Proofs.Polling.Quiescence
import IngestWatch.Proofs.Program.Rate
import IngestWatch.Proofs.Polling.Undisturbed
import IngestWatch.Proofs.Program.Onlooker
import IngestWatch.Proofs.Program.Failures
import IngestWatch.Proofs.Target.Reference
import IngestWatch.Proofs.Config.Precedence
import IngestWatch.Proofs.History.Effects
import IngestWatch.Proofs.Transport
import IngestWatch.Proofs.Polling.Failures
import IngestWatch.Proofs.Failures
import IngestWatch.Proofs.Url.Query
import IngestWatch.Proofs.Program.Lookup
import IngestWatch.Proofs.Json.Grammar
import IngestWatch.Proofs.Json.Scan
import IngestWatch.Proofs.Json.Skip
import IngestWatch.Proofs.Json.Object
import IngestWatch.Proofs.Codec.Values
import IngestWatch.Proofs.Codec.Overlay
import IngestWatch.Proofs.Codec.Document
import IngestWatch.Proofs.Json.Plain
import IngestWatch.Proofs.Codec.Types
import IngestWatch.Proofs.Config.Documents
import IngestWatch.Proofs.Grid
import IngestWatch.Proofs.Keyed
import IngestWatch.Proofs.Json.Written
import IngestWatch.Proofs.Codec.RoundTrip
import IngestWatch.Proofs.Codec.Invariants
import IngestWatch.Proofs.Config.RoundTrip
import IngestWatch.Proofs.CommandLine.Levels
import IngestWatch.Proofs.CommandLine.Relevelled
import IngestWatch.Proofs.CommandLine.Written
import IngestWatch.Proofs.Config.Logging
import IngestWatch.Proofs.Config.Rules
import IngestWatch.Proofs.Polling.Paced
import IngestWatch.Proofs.Program.Logging
import IngestWatch.Proofs.Program.Refusal
import IngestWatch.Proofs.Window.Bounds
import IngestWatch.Proofs.Program.Missing
import IngestWatch.Proofs.Json.Tokens
import IngestWatch.Proofs.Json.Meaning
import IngestWatch.Proofs.Json.Documents
import IngestWatch.Proofs.Http.Outcomes
import IngestWatch.Proofs.Window.Words
import IngestWatch.Proofs.Json.Ordered
import IngestWatch.Proofs.Report.Columns
import IngestWatch.Proofs.Json.ReadBack
import IngestWatch.Proofs.Report.ReadBack
import IngestWatch.Proofs.Polling.Exhaustion
import IngestWatch.Proofs.CommandLine.RoundTrip
import IngestWatch.Proofs.Config.Directives
