import RouterTelemetry.CommandLine
import RouterTelemetry.Config.Basic
import RouterTelemetry.Config.Document
import RouterTelemetry.Config.Environment
import RouterTelemetry.Config.Load
import RouterTelemetry.Config.Value
import RouterTelemetry.Daemon
import RouterTelemetry.Delivery.Flusher
import RouterTelemetry.Delivery.Outcome
import RouterTelemetry.Delivery.Request
import RouterTelemetry.Delivery.Run
import RouterTelemetry.Delivery.Shipment
import RouterTelemetry.Delivery.System
import RouterTelemetry.Digest.Sha256
import RouterTelemetry.Dns.Correlator
import RouterTelemetry.Dns.CorrelatorTask
import RouterTelemetry.Dns.Line
import RouterTelemetry.Dns.LogFiles
import RouterTelemetry.Dns.NameHash
import RouterTelemetry.Dns.Tailer
import RouterTelemetry.Event.Basic
import RouterTelemetry.Event.Printer
import RouterTelemetry.Event.Reader
import RouterTelemetry.Json.Basic
import RouterTelemetry.Json.Reader
import RouterTelemetry.Json.Token
import RouterTelemetry.LogLevel
import RouterTelemetry.LogLine
import RouterTelemetry.Mailbox
import RouterTelemetry.Main
import RouterTelemetry.Metrics
import RouterTelemetry.Net.SocketAddress
import RouterTelemetry.Numeric.Binary64
import RouterTelemetry.Numeric.Decimal
import RouterTelemetry.Numeric.Rounding
import RouterTelemetry.Retry.Backoff
import RouterTelemetry.Retry.Generator
import RouterTelemetry.Ring
import RouterTelemetry.Sampler
import RouterTelemetry.Sources
import RouterTelemetry.Spool.Basic
import RouterTelemetry.Spool.Directory
import RouterTelemetry.Stats
import RouterTelemetry.Table
import RouterTelemetry.Tally
import RouterTelemetry.Text.Base64
import RouterTelemetry.Text.Blank
import RouterTelemetry.Text.Lowercase
import RouterTelemetry.Text.Quoted
import RouterTelemetry.Text.Ranges
import RouterTelemetry.Text.Utf8
import RouterTelemetry.Text.Word
import RouterTelemetry.Time.Civil
import RouterTelemetry.Time.Field
import RouterTelemetry.Time.Instant
import RouterTelemetry.Time.Rfc3339
import RouterTelemetry.Time.Ticker
import RouterTelemetry.Time.Zone
import RouterTelemetry.Yaml.Node
import RouterTelemetry.Yaml.Scalar
import RouterTelemetry.Yaml.Spot
import RouterTelemetry.Yaml.Token
import RouterTelemetry.Yaml.Tree
import RouterTelemetry.Proofs.Spool.Names
import RouterTelemetry.Proofs.Spool.Directory
import RouterTelemetry.Proofs.Spool.Contents
import RouterTelemetry.Proofs.Spool.Queue
import RouterTelemetry.Proofs.Spool.Restart
import RouterTelemetry.Proofs.Spool.ForeignEntries
import RouterTelemetry.Proofs.Delivery.History
import RouterTelemetry.Proofs.Delivery.AtLeastOnce
import RouterTelemetry.Proofs.Delivery.Batching
import RouterTelemetry.Proofs.Delivery.ReplayLock
import RouterTelemetry.Proofs.Delivery.ReplayPasses
import RouterTelemetry.Proofs.Delivery.Retries
import RouterTelemetry.Proofs.Delivery.LongestPrefix
import RouterTelemetry.Proofs.Dns.BucketCounts
import RouterTelemetry.Proofs.Dns.MissingNames
import RouterTelemetry.Proofs.Dns.Lines
import RouterTelemetry.Proofs.Dns.Rotation
import RouterTelemetry.Proofs.Dns.Names
import RouterTelemetry.Proofs.Dns.HiddenNames
import RouterTelemetry.Proofs.Dns.Pruning
import RouterTelemetry.Proofs.Time.Civil
import RouterTelemetry.Proofs.Time.Rfc3339
import RouterTelemetry.Proofs.Json.RoundTrip
import RouterTelemetry.Proofs.Event.RoundTrip
import RouterTelemetry.Proofs.Spool.Atomicity
import RouterTelemetry.Proofs.Mailbox.Accounting
import RouterTelemetry.Proofs.Dns.Arrival
import RouterTelemetry.Proofs.Dns.Truncation
import RouterTelemetry.Proofs.Dns.Accounts
import RouterTelemetry.Proofs.Dns.ClientHistory
import RouterTelemetry.Proofs.Time.Stamp
import RouterTelemetry.Proofs.Dns.LineTimes
import RouterTelemetry.Proofs.Time.Minute
import RouterTelemetry.Proofs.Dns.Minutes
import RouterTelemetry.Proofs.Config.Fields
import RouterTelemetry.Proofs.Config.Merging
import RouterTelemetry.Proofs.Config.Variables
import RouterTelemetry.Proofs.Config.Limits
import RouterTelemetry.Proofs.Config.Refusals
import RouterTelemetry.Proofs.Yaml.Aliases
import RouterTelemetry.Proofs.Config.UnsetFields
import RouterTelemetry.Proofs.Dns.Grammar
import RouterTelemetry.Proofs.Text.Words
import RouterTelemetry.Proofs.Time.StampText
import RouterTelemetry.Proofs.Dns.LoggedLines
import RouterTelemetry.Proofs.Dns.LineYears
import RouterTelemetry.Proofs.Text.Classes
import RouterTelemetry.Proofs.Text.Lowercase
import RouterTelemetry.Proofs.Dns.NameHash
import RouterTelemetry.Proofs.Ring.Copies
import RouterTelemetry.Proofs.LogLine.Lines
import RouterTelemetry.Proofs.Config.LogLevels
import RouterTelemetry.Proofs.Numeric.Rounding
import RouterTelemetry.Proofs.Retry.Draws
import RouterTelemetry.Proofs.Retry.Backoff
