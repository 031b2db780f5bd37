import VmScan.Batch
import VmScan.CommandLine.Arguments
import VmScan.CommandLine.Grammar
import VmScan.CommandLine.Program
import VmScan.Detection.Basic
import VmScan.Detection.Batches
import VmScan.Detection.Detect
import VmScan.Detection.Export
import VmScan.Detection.Merge
import VmScan.Detection.Report
import VmScan.Detection.Response
import VmScan.Encoding
import VmScan.Failure.Basic
import VmScan.Failure.Causes
import VmScan.Failure.Kind
import VmScan.File.Path
import VmScan.File.Tree
import VmScan.Json.Printer
import VmScan.Json.Reader
import VmScan.Json.Shown
import VmScan.Json.Value
import VmScan.Layout
import VmScan.Layout.Cut
import VmScan.Layout.Directive
import VmScan.Layout.Fault
import VmScan.Layout.Frame
import VmScan.Layout.Page
import VmScan.Layout.Rules
import VmScan.Layout.Scanner
import VmScan.Layout.Token
import VmScan.Layout.WordChars
import VmScan.Layout.Writer
import VmScan.Listing
import VmScan.Log.Level
import VmScan.Log.Setup
import VmScan.Main
import VmScan.Model.Breaker
import VmScan.Model.Call
import VmScan.Model.Client
import VmScan.Model.Prompt
import VmScan.Model.Provider
import VmScan.Model.Registry
import VmScan.Model.Request
import VmScan.Number.Binary64
import VmScan.Number.Integer
import VmScan.Number.Percent
import VmScan.Number.Shortest
import VmScan.Packed
import VmScan.Packed.Fault
import VmScan.Packed.Numeral
import VmScan.Packed.Percent
import VmScan.Packed.Places
import VmScan.Packed.Reversed
import VmScan.Packed.StringArray
import VmScan.Packed.WordTable
import VmScan.Proofs.Batch.Budget
import VmScan.Proofs.Batch.Cover
import VmScan.Proofs.Batch.Fewest
import VmScan.Proofs.Batch.Pack
import VmScan.Proofs.CommandLine.FrontEnds
import VmScan.Proofs.CommandLine.Spelled
import VmScan.Proofs.CommandLine.Tokens
import VmScan.Proofs.Detection.Disjoint
import VmScan.Proofs.Detection.Dominant
import VmScan.Proofs.Detection.Enrichment
import VmScan.Proofs.Detection.Fence
import VmScan.Proofs.Detection.Field
import VmScan.Proofs.Detection.Grammar
import VmScan.Proofs.Detection.Isolation
import VmScan.Proofs.Detection.Labels
import VmScan.Proofs.Detection.LastAccepted
import VmScan.Proofs.Detection.Leaves
import VmScan.Proofs.Detection.LineNumbers
import VmScan.Proofs.Detection.Mirror
import VmScan.Proofs.Detection.Omitted
import VmScan.Proofs.Detection.Outcomes
import VmScan.Proofs.Detection.Plan
import VmScan.Proofs.Detection.Ranges
import VmScan.Proofs.Detection.Regular
import VmScan.Proofs.Detection.Rejections
import VmScan.Proofs.Detection.Remerge
import VmScan.Proofs.Detection.Replaced
import VmScan.Proofs.Detection.Reread
import VmScan.Proofs.Detection.StandIn
import VmScan.Proofs.Detection.WholeRun
import VmScan.Proofs.Failure.Kinds
import VmScan.Proofs.Failure.Walk
import VmScan.Proofs.Json.Addresses
import VmScan.Proofs.Json.Blanks
import VmScan.Proofs.Json.Floats
import VmScan.Proofs.Json.Limits
import VmScan.Proofs.Json.Literals
import VmScan.Proofs.Json.Numbers
import VmScan.Proofs.Json.Places
import VmScan.Proofs.Json.Readings
import VmScan.Proofs.Json.RoundTrip
import VmScan.Proofs.Json.Strings
import VmScan.Proofs.Listing.Decoded
import VmScan.Proofs.Listing.Written
import VmScan.Proofs.Log.Phases
import VmScan.Proofs.Model.Course
import VmScan.Proofs.Model.Interleaving
import VmScan.Proofs.Model.Outages
import VmScan.Proofs.Model.Registry
import VmScan.Proofs.Model.Replies
import VmScan.Proofs.Model.Retries
import VmScan.Proofs.Number.Binary64
import VmScan.Proofs.Number.Decimal
import VmScan.Proofs.Number.Nearest
import VmScan.Proofs.Number.Range
import VmScan.Proofs.Script.Closing
import VmScan.Proofs.Script.Escapes
import VmScan.Proofs.Script.KeepsLines
import VmScan.Proofs.Script.Literals
import VmScan.Proofs.Script.LookBack
import VmScan.Proofs.Script.Parted
import VmScan.Proofs.Script.Reading
import VmScan.Proofs.Script.Refusals
import VmScan.Proofs.Script.Sequences
import VmScan.Proofs.Script.Shortened
import VmScan.Proofs.Settings.Credentials
import VmScan.Proofs.SourceMap.Beside
import VmScan.Proofs.SourceMap.Counters
import VmScan.Proofs.SourceMap.Lookup
import VmScan.Proofs.SourceMap.Search
import VmScan.Proofs.Text.Lined
import VmScan.Proofs.Text.Lines
import VmScan.Proofs.Text.Lower
import VmScan.Proofs.Text.Mentions
import VmScan.Script.Basic
import VmScan.Script.Escape
import VmScan.Script.Literal
import VmScan.Script.Numeral
import VmScan.Script.Pattern
import VmScan.Script.PatternGoal
import VmScan.Script.Scanner
import VmScan.Script.Truncate
import VmScan.Settings.Basic
import VmScan.Settings.EnvFile
import VmScan.Settings.Environment
import VmScan.Settings.Given
import VmScan.Source
import VmScan.SourceMap.Basic
import VmScan.SourceMap.Reader
import VmScan.SourceMap.Vlq
import VmScan.Text.Base64
import VmScan.Text.Blank
import VmScan.Text.Case
import VmScan.Text.Cased
import VmScan.Text.CharRanges
import VmScan.Text.Digit
import VmScan.Text.Letter
import VmScan.Text.Lines
import VmScan.Text.PercentCode
import VmScan.Text.Printable
import VmScan.Text.Quoted
import VmScan.Text.Search
import VmScan.Text.Utf8
import VmScan.Text.Word
import VmScan.Tool
