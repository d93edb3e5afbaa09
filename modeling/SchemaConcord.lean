import SchemaConcord.Command.Arguments
import SchemaConcord.Command.Logging
import SchemaConcord.Command.Printed
import SchemaConcord.Command.Run
import SchemaConcord.Command.Scene
import SchemaConcord.Database.Analysis
import SchemaConcord.Database.Recording
import SchemaConcord.Database.Reflection
import SchemaConcord.Database.Replay
import SchemaConcord.Datum.Basic
import SchemaConcord.Datum.Display
import SchemaConcord.Datum.Parts
import SchemaConcord.Datum.Reader
import SchemaConcord.Decimal.Binary
import SchemaConcord.Decimal.Fixed
import SchemaConcord.Decimal.Read
import SchemaConcord.Decimal.Shortest
import SchemaConcord.Digest.Sha256
import SchemaConcord.Drift.Archive
import SchemaConcord.Drift.Baseline
import SchemaConcord.Drift.Basic
import SchemaConcord.Drift.Compare
import SchemaConcord.Drift.Detector
import SchemaConcord.Drift.DetectorRun
import SchemaConcord.Drift.Document
import SchemaConcord.Drift.Filter
import SchemaConcord.Drift.Findings
import SchemaConcord.Drift.Fingerprint
import SchemaConcord.Drift.MigrationLog
import SchemaConcord.Drift.Suggest
import SchemaConcord.Engine.Address
import SchemaConcord.Engine.Profile
import SchemaConcord.Events
import SchemaConcord.Files.Discovery
import SchemaConcord.Files.Document
import SchemaConcord.Files.Glob
import SchemaConcord.Files.Path
import SchemaConcord.Files.Tree
import SchemaConcord.Form.Basic
import SchemaConcord.Form.Control
import SchemaConcord.Form.Document
import SchemaConcord.Form.Expect
import SchemaConcord.Form.Extract
import SchemaConcord.Form.Match
import SchemaConcord.Form.Project
import SchemaConcord.Form.Validate
import SchemaConcord.Json.Parser
import SchemaConcord.Json.Printer
import SchemaConcord.Main
import SchemaConcord.Markup.Element
import SchemaConcord.Markup.Reference
import SchemaConcord.Markup.ReferenceTable
import SchemaConcord.Markup.Tag
import SchemaConcord.Moment.Basic
import SchemaConcord.Moment.Parser
import SchemaConcord.Naming.Words
import SchemaConcord.Outcome
import SchemaConcord.Pool.Analysis
import SchemaConcord.Pool.Backend
import SchemaConcord.Pool.Call
import SchemaConcord.Pool.Concurrent
import SchemaConcord.Pool.Count
import SchemaConcord.Pool.Manager
import SchemaConcord.Proofs.Command.Exit
import SchemaConcord.Proofs.Database.Capture
import SchemaConcord.Proofs.Database.Legible
import SchemaConcord.Proofs.Database.Listing
import SchemaConcord.Proofs.Database.Tables
import SchemaConcord.Proofs.Drift.Alignment
import SchemaConcord.Proofs.Drift.Archive
import SchemaConcord.Proofs.Drift.AutoFix
import SchemaConcord.Proofs.Drift.Baseline
import SchemaConcord.Proofs.Drift.Conduct
import SchemaConcord.Proofs.Drift.Coverage
import SchemaConcord.Proofs.Drift.Detection
import SchemaConcord.Proofs.Drift.Discrepancy
import SchemaConcord.Proofs.Drift.Frame
import SchemaConcord.Proofs.Drift.Ignored
import SchemaConcord.Proofs.Drift.Interruption
import SchemaConcord.Proofs.Drift.Named
import SchemaConcord.Proofs.Drift.Noticed
import SchemaConcord.Proofs.Drift.Notification
import SchemaConcord.Proofs.Drift.Numbering
import SchemaConcord.Proofs.Drift.Origin
import SchemaConcord.Proofs.Drift.Remedy
import SchemaConcord.Proofs.Drift.Reread
import SchemaConcord.Proofs.Drift.Restored
import SchemaConcord.Proofs.Drift.Run
import SchemaConcord.Proofs.Drift.Structure
import SchemaConcord.Proofs.Drift.Unchanged
import SchemaConcord.Proofs.Drift.Warnings
import SchemaConcord.Proofs.Engine.Password
import SchemaConcord.Proofs.Engine.Reading
import SchemaConcord.Proofs.Engine.Refusal
import SchemaConcord.Proofs.Files.Change
import SchemaConcord.Proofs.Files.Discovery
import SchemaConcord.Proofs.Files.Erase
import SchemaConcord.Proofs.Files.Growth
import SchemaConcord.Proofs.Files.Merge
import SchemaConcord.Proofs.Files.Reach
import SchemaConcord.Proofs.Files.Resume
import SchemaConcord.Proofs.Form.ColumnType
import SchemaConcord.Proofs.Form.Outline
import SchemaConcord.Proofs.Form.Pairing
import SchemaConcord.Proofs.Form.Scan
import SchemaConcord.Proofs.Form.Script
import SchemaConcord.Proofs.Form.Suggestion
import SchemaConcord.Proofs.Form.Validity
import SchemaConcord.Proofs.Json.Depth
import SchemaConcord.Proofs.Json.Quoted
import SchemaConcord.Proofs.Json.RoundTrip
import SchemaConcord.Proofs.Lists
import SchemaConcord.Proofs.Malformed
import SchemaConcord.Proofs.Moment.RoundTrip
import SchemaConcord.Proofs.Naming.Plural
import SchemaConcord.Proofs.Naming.Spelling
import SchemaConcord.Proofs.Pool.Accounting
import SchemaConcord.Proofs.Pool.Completion
import SchemaConcord.Proofs.Pool.Lifecycle
import SchemaConcord.Proofs.Pool.Requests
import SchemaConcord.Proofs.Route.Coverage
import SchemaConcord.Proofs.Route.LetterCase
import SchemaConcord.Proofs.Route.Parameters
import SchemaConcord.Proofs.Route.Repeat
import SchemaConcord.Proofs.Route.Scan
import SchemaConcord.Proofs.Route.Statements
import SchemaConcord.Proofs.Route.Stub
import SchemaConcord.Proofs.Route.StubCoverage
import SchemaConcord.Proofs.Route.StubHandlers
import SchemaConcord.Proofs.Route.StubLines
import SchemaConcord.Proofs.Route.StubReading
import SchemaConcord.Proofs.Schema.RoundTrip
import SchemaConcord.Proofs.Schema.Subject
import SchemaConcord.Proofs.Schema.TypeText
import SchemaConcord.Proofs.Settings.Root
import SchemaConcord.Proofs.Source.Blocks
import SchemaConcord.Proofs.Source.Lines
import SchemaConcord.Proofs.Source.Reading
import SchemaConcord.Proofs.Source.Tree
import SchemaConcord.Proofs.Source.Words
import SchemaConcord.Proofs.Source.Written
import SchemaConcord.Proofs.Text.Case
import SchemaConcord.Proofs.Text.Digits
import SchemaConcord.Proofs.Text.Percent
import SchemaConcord.Proofs.Text.Replacement
import SchemaConcord.Route.Basic
import SchemaConcord.Route.Crud
import SchemaConcord.Route.Document
import SchemaConcord.Route.Extract
import SchemaConcord.Route.Input
import SchemaConcord.Route.Path
import SchemaConcord.Route.Project
import SchemaConcord.Route.Sql
import SchemaConcord.Route.Stub
import SchemaConcord.Route.Validate
import SchemaConcord.Schema.Basic
import SchemaConcord.Schema.Display
import SchemaConcord.Schema.Document
import SchemaConcord.Schema.Sql
import SchemaConcord.Schema.TypeText
import SchemaConcord.Settings.Basic
import SchemaConcord.Settings.Document
import SchemaConcord.Settings.Load
import SchemaConcord.Source.Expression
import SchemaConcord.Source.Interpolation
import SchemaConcord.Source.Lexer
import SchemaConcord.Source.Literal
import SchemaConcord.Source.Node
import SchemaConcord.Source.Parser
import SchemaConcord.Source.Statement
import SchemaConcord.Text.Case
import SchemaConcord.Text.CaseTable
import SchemaConcord.Text.Class
import SchemaConcord.Text.Compatibility
import SchemaConcord.Text.CompatibilityTable
import SchemaConcord.Text.Edit
import SchemaConcord.Text.NameTable
import SchemaConcord.Text.Percent
import SchemaConcord.Text.PrintTable
import SchemaConcord.Text.Quoted
import SchemaConcord.Text.Utf8
import SchemaConcord.Text.WordTable
import SchemaConcord.Toml.Number
import SchemaConcord.Toml.Parser
import SchemaConcord.Toml.Text
import SchemaConcord.Webhook.Address
import SchemaConcord.Webhook.Delivery
import SchemaConcord.Proofs.Drift.MigrationTable
import SchemaConcord.Proofs.Settings.Faults
import SchemaConcord.Pool.Timeline
import SchemaConcord.Proofs.Pool.Query
import SchemaConcord.Proofs.Pool.Timeline
import SchemaConcord.Proofs.Drift.Window
import SchemaConcord.Proofs.Route.StubImports
import SchemaConcord.Proofs.Route.Attribute
