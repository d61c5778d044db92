import RelayStore.Assembly
import RelayStore.Binary.LittleEndian
import RelayStore.CommandLine.Arguments
import RelayStore.CommandLine.Dotenv
import RelayStore.CommandLine.Help
import RelayStore.CommandLine.Run
import RelayStore.Compress.Checksum
import RelayStore.Compress.CodeTree
import RelayStore.Compress.Deflate
import RelayStore.Compress.Gzip
import RelayStore.Compress.Inflate
import RelayStore.Compress.Matches
import RelayStore.Crypto.Curve
import RelayStore.Crypto.Schnorr
import RelayStore.Crypto.Sha256
import RelayStore.Decimal.Binary
import RelayStore.Decimal.Scientific
import RelayStore.Decimal.Shortest
import RelayStore.Decimal.Span
import RelayStore.Domain.Composition
import RelayStore.Domain.Direction
import RelayStore.Domain.Joining
import RelayStore.Domain.Mapping
import RelayStore.Domain.Name
import RelayStore.Domain.Punycode
import RelayStore.Error
import RelayStore.Event
import RelayStore.Event.Printer
import RelayStore.Event.Reader
import RelayStore.Event.Signed
import RelayStore.FileTree
import RelayStore.Filter
import RelayStore.Filter.Reader
import RelayStore.Hot.Ranking
import RelayStore.Hot.Refresh
import RelayStore.Hot.Score
import RelayStore.Http
import RelayStore.Import.Files
import RelayStore.Import.Line
import RelayStore.Import.Run
import RelayStore.Import.Statistics
import RelayStore.Ingest.Ingestor
import RelayStore.Json.Decode
import RelayStore.Json.Number
import RelayStore.Json.Source
import RelayStore.Json.Value
import RelayStore.Main
import RelayStore.Metric
import RelayStore.Plan.Planner
import RelayStore.Plan.Schema
import RelayStore.Plan.Statement
import RelayStore.Proofs.Assembly
import RelayStore.Proofs.CommandLine.Saving
import RelayStore.Proofs.Event.Authentic
import RelayStore.Proofs.Event.FirstOfEach
import RelayStore.Proofs.Event.Forms
import RelayStore.Proofs.Event.Grammar
import RelayStore.Proofs.Event.RoundTrip
import RelayStore.Proofs.Except
import RelayStore.Proofs.Filter.Fields
import RelayStore.Proofs.Filter.Grammar
import RelayStore.Proofs.Filter.Reader
import RelayStore.Proofs.Filter.Refusal
import RelayStore.Proofs.Hot.Ranking
import RelayStore.Proofs.Import.Balance
import RelayStore.Proofs.Import.Dump
import RelayStore.Proofs.Import.HandingOver
import RelayStore.Proofs.Import.Lines
import RelayStore.Proofs.Import.Malformed
import RelayStore.Proofs.Import.OnTrust
import RelayStore.Proofs.Import.Persisting
import RelayStore.Proofs.Import.Selection
import RelayStore.Proofs.Ingest.Accounting
import RelayStore.Proofs.Ingest.Delivery
import RelayStore.Proofs.Ingest.Ending
import RelayStore.Proofs.Ingest.Flow
import RelayStore.Proofs.Ingest.Run
import RelayStore.Proofs.Ingest.SubmissionOrder
import RelayStore.Proofs.Json.Lists
import RelayStore.Proofs.Json.Literal
import RelayStore.Proofs.Json.Number
import RelayStore.Proofs.Json.Objects
import RelayStore.Proofs.Json.RoundTrip
import RelayStore.Proofs.Json.Trees
import RelayStore.Proofs.Plan.Fitting
import RelayStore.Proofs.Plan.Meaning
import RelayStore.Proofs.Plan.Outline
import RelayStore.Proofs.Plan.Placeholders
import RelayStore.Proofs.Plan.Search
import RelayStore.Proofs.Plan.Selection
import RelayStore.Proofs.Plan.TagValues
import RelayStore.Proofs.Plan.TagView
import RelayStore.Proofs.Plan.Terms
import RelayStore.Proofs.Plan.Unconstrained
import RelayStore.Proofs.Row
import RelayStore.Proofs.Server.Binding
import RelayStore.Proofs.Server.Replacement
import RelayStore.Proofs.Service.Answering
import RelayStore.Proofs.Service.Closing
import RelayStore.Proofs.Service.Counting
import RelayStore.Proofs.Service.Guarded
import RelayStore.Proofs.Service.Merging
import RelayStore.Proofs.Service.Outcome
import RelayStore.Proofs.Service.Ranking
import RelayStore.Proofs.Settings
import RelayStore.Proofs.Tag.Constraints
import RelayStore.Proofs.Tag.Insertions
import RelayStore.Proofs.Tag.Projection
import RelayStore.Proofs.Text.Distinct
import RelayStore.Proofs.Text.FirstWords
import RelayStore.Proofs.Text.Hex
import RelayStore.Proofs.Text.Runs
import RelayStore.Proofs.Text.Tokens
import RelayStore.Proofs.Text.Utf8
import RelayStore.Proofs.Version
import RelayStore.Row
import RelayStore.Server.Address
import RelayStore.Server.Client
import RelayStore.Server.RowBinary
import RelayStore.Server.Template
import RelayStore.Server.Wire
import RelayStore.Service.Alarm
import RelayStore.Service.Gate
import RelayStore.Service.Job
import RelayStore.Service.MemoryStore
import RelayStore.Service.Schedule
import RelayStore.Service.State
import RelayStore.Settings
import RelayStore.Storage.Connection
import RelayStore.Storage.Outcome
import RelayStore.Tag.Constraints
import RelayStore.Tag.Name
import RelayStore.Tag.Projection
import RelayStore.Text.Blank
import RelayStore.Text.Hex
import RelayStore.Text.Pieces
import RelayStore.Text.Property
import RelayStore.Text.Quoted
import RelayStore.Text.WordChar
import RelayStore.Text.Words
import RelayStore.Ticker
import RelayStore.Url
import RelayStore.Url.Form
import RelayStore.Url.Host
import RelayStore.Url.Number
import RelayStore.Url.Path
import RelayStore.Url.Percent
import RelayStore.Version
