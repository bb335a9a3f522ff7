import MonorepoCheck.Advice.Address
import MonorepoCheck.Advice.Enrich
import MonorepoCheck.Advice.Request
import MonorepoCheck.Binary.Float
import MonorepoCheck.Binary.Rounding
import MonorepoCheck.Binary.Word
import MonorepoCheck.Cache.Entry
import MonorepoCheck.Cache.Freshness
import MonorepoCheck.Cache.Store
import MonorepoCheck.Command.Basic
import MonorepoCheck.CommandLine.Execution
import MonorepoCheck.CommandLine.Help
import MonorepoCheck.CommandLine.Request
import MonorepoCheck.CommandLine.Words
import MonorepoCheck.Decimal.Shortest
import MonorepoCheck.Diagnostic.Basic
import MonorepoCheck.Diagnostic.CheckerLine
import MonorepoCheck.Diagnostic.Filter
import MonorepoCheck.Diagnostic.Hints
import MonorepoCheck.Diagnostic.Snippet
import MonorepoCheck.Digest.Key
import MonorepoCheck.Digest.Sha256
import MonorepoCheck.Domain.Characters
import MonorepoCheck.Domain.Direction
import MonorepoCheck.Domain.Joining
import MonorepoCheck.Domain.Name
import MonorepoCheck.Failure
import MonorepoCheck.Files.Listing
import MonorepoCheck.Files.Tree
import MonorepoCheck.Glob.Expand
import MonorepoCheck.Glob.Pattern
import MonorepoCheck.Host
import MonorepoCheck.Instant.Basic
import MonorepoCheck.Instant.Text
import MonorepoCheck.Json.Basic
import MonorepoCheck.Json.Comments
import MonorepoCheck.Json.Fields
import MonorepoCheck.Json.Printer
import MonorepoCheck.Json.Reader
import MonorepoCheck.Main
import MonorepoCheck.Path.Basic
import MonorepoCheck.Path.Bytes
import MonorepoCheck.Path.Relative
import MonorepoCheck.Proofs.Advice.Enriched
import MonorepoCheck.Proofs.Batches.Interleaving
import MonorepoCheck.Proofs.Batches.Merged
import MonorepoCheck.Proofs.Batches.Outcome
import MonorepoCheck.Proofs.Batches.Scanned
import MonorepoCheck.Proofs.Cache.Calls
import MonorepoCheck.Proofs.Cache.Entry
import MonorepoCheck.Proofs.Cache.Freshness
import MonorepoCheck.Proofs.Cache.Leftovers
import MonorepoCheck.Proofs.Cache.Newest
import MonorepoCheck.Proofs.Cache.Places
import MonorepoCheck.Proofs.Cache.Refinement
import MonorepoCheck.Proofs.Cache.Room
import MonorepoCheck.Proofs.Cache.Sharing
import MonorepoCheck.Proofs.Cache.Sources
import MonorepoCheck.Proofs.Cache.Store
import MonorepoCheck.Proofs.Command.Captured
import MonorepoCheck.Proofs.Diagnostic.CheckerLine
import MonorepoCheck.Proofs.Diagnostic.Fingerprint
import MonorepoCheck.Proofs.Diagnostic.Lines
import MonorepoCheck.Proofs.Diagnostic.Snippet
import MonorepoCheck.Proofs.Digest.Key
import MonorepoCheck.Proofs.Files.Disk
import MonorepoCheck.Proofs.Files.Edits
import MonorepoCheck.Proofs.Files.Moved
import MonorepoCheck.Proofs.Files.Tree
import MonorepoCheck.Proofs.Files.Walks
import MonorepoCheck.Proofs.Glob.Literal
import MonorepoCheck.Proofs.Glob.Moved
import MonorepoCheck.Proofs.Instant.Calendar
import MonorepoCheck.Proofs.Instant.Text
import MonorepoCheck.Proofs.Json.Decorated
import MonorepoCheck.Proofs.Json.Documents
import MonorepoCheck.Proofs.Json.Fields
import MonorepoCheck.Proofs.Json.Layout
import MonorepoCheck.Proofs.Json.Literals
import MonorepoCheck.Proofs.Json.Rereading
import MonorepoCheck.Proofs.Json.Spans
import MonorepoCheck.Proofs.Path.Below
import MonorepoCheck.Proofs.Path.Bytes
import MonorepoCheck.Proofs.Path.Joining
import MonorepoCheck.Proofs.Path.Naming
import MonorepoCheck.Proofs.Path.Resolution
import MonorepoCheck.Proofs.Report.Accounting
import MonorepoCheck.Proofs.Report.Documents
import MonorepoCheck.Proofs.Report.Escaping
import MonorepoCheck.Proofs.Report.Fences
import MonorepoCheck.Proofs.Report.Grouping
import MonorepoCheck.Proofs.Report.Markup
import MonorepoCheck.Proofs.Report.Merging
import MonorepoCheck.Proofs.Report.Origin
import MonorepoCheck.Proofs.Report.Stored
import MonorepoCheck.Proofs.Report.Words
import MonorepoCheck.Proofs.Run.Accounting
import MonorepoCheck.Proofs.Run.Advised
import MonorepoCheck.Proofs.Run.Ending
import MonorepoCheck.Proofs.Run.Respelt
import MonorepoCheck.Proofs.Run.Scans
import MonorepoCheck.Proofs.Run.SecondRun
import MonorepoCheck.Proofs.Run.Success
import MonorepoCheck.Proofs.Scan.Accounting
import MonorepoCheck.Proofs.Scan.Again
import MonorepoCheck.Proofs.Scan.Collected
import MonorepoCheck.Proofs.Scan.Commands
import MonorepoCheck.Proofs.Scan.Course
import MonorepoCheck.Proofs.Scan.Filtered
import MonorepoCheck.Proofs.Scan.Fingerprint
import MonorepoCheck.Proofs.Scan.History
import MonorepoCheck.Proofs.Scan.Leaves
import MonorepoCheck.Proofs.Scan.Remedied
import MonorepoCheck.Proofs.Scan.Reshaped
import MonorepoCheck.Proofs.Scan.Sequence
import MonorepoCheck.Proofs.Scan.Timeline
import MonorepoCheck.Proofs.Scan.Unit
import MonorepoCheck.Proofs.Schedule.Declared
import MonorepoCheck.Proofs.Schedule.Discovery
import MonorepoCheck.Proofs.Schedule.Edges
import MonorepoCheck.Proofs.Schedule.Order
import MonorepoCheck.Proofs.Schedule.Walk
import MonorepoCheck.Proofs.Settings.Saved
import MonorepoCheck.Proofs.Text.ByteOrder
import MonorepoCheck.Proofs.Text.Lines
import MonorepoCheck.Proofs.Text.Numerals
import MonorepoCheck.Proofs.Text.Sorting
import MonorepoCheck.Proofs.Text.Splitting
import MonorepoCheck.Proofs.Text.Utf8
import MonorepoCheck.Proofs.Toml.Documents
import MonorepoCheck.Proofs.Toml.Quoted
import MonorepoCheck.Proofs.Toml.Tables
import MonorepoCheck.Proofs.Toml.Values
import MonorepoCheck.Proofs.Unit.Found
import MonorepoCheck.Proofs.Unit.Members
import MonorepoCheck.Proofs.Unit.Naming
import MonorepoCheck.Proofs.Unit.References
import MonorepoCheck.Proofs.Unit.Relocation
import MonorepoCheck.Remedy.Level
import MonorepoCheck.Report.Document
import MonorepoCheck.Report.Findings
import MonorepoCheck.Report.Format
import MonorepoCheck.Report.Html
import MonorepoCheck.Report.Markdown
import MonorepoCheck.Report.Plain
import MonorepoCheck.Report.Rendering
import MonorepoCheck.Report.Run
import MonorepoCheck.Report.RunId
import MonorepoCheck.Report.Stored
import MonorepoCheck.Report.Unit
import MonorepoCheck.Run
import MonorepoCheck.Scan.Batches
import MonorepoCheck.Scan.Collect
import MonorepoCheck.Scan.Plan
import MonorepoCheck.Scan.Remedy
import MonorepoCheck.Scan.Unit
import MonorepoCheck.Settings.Basic
import MonorepoCheck.Settings.Documented
import MonorepoCheck.Settings.Load
import MonorepoCheck.Settings.Stored
import MonorepoCheck.Shell.Arithmetic
import MonorepoCheck.Shell.Builtin
import MonorepoCheck.Shell.Evaluation
import MonorepoCheck.Shell.Fields
import MonorepoCheck.Shell.Filter
import MonorepoCheck.Shell.Output
import MonorepoCheck.Shell.Pattern
import MonorepoCheck.Shell.Process
import MonorepoCheck.Shell.Program
import MonorepoCheck.Shell.Reader
import MonorepoCheck.Shell.Script
import MonorepoCheck.Shell.Session
import MonorepoCheck.Shell.Signal
import MonorepoCheck.Shell.Stream
import MonorepoCheck.Shell.Test
import MonorepoCheck.Shell.Token
import MonorepoCheck.Shell.Utility
import MonorepoCheck.Text.Blank
import MonorepoCheck.Text.Bytes
import MonorepoCheck.Text.CharSet
import MonorepoCheck.Text.Digit
import MonorepoCheck.Text.Letter
import MonorepoCheck.Text.Lines
import MonorepoCheck.Text.Punycode
import MonorepoCheck.Text.Search
import MonorepoCheck.Toml.Basic
import MonorepoCheck.Toml.Fields
import MonorepoCheck.Toml.Number
import MonorepoCheck.Toml.Printer
import MonorepoCheck.Toml.Quoted
import MonorepoCheck.Toml.Reader
import MonorepoCheck.Toml.Tables
import MonorepoCheck.Unit.Basic
import MonorepoCheck.Unit.Discovery
import MonorepoCheck.Unit.References
import MonorepoCheck.Unit.Schedule
