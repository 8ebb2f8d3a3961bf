import MappedCoverage.FileSystem.Tree
import MappedCoverage.Main
import MappedCoverage.Run
import MappedCoverage.Proofs.Base64.Symbols
import MappedCoverage.Proofs.Base64.RoundTrip
import MappedCoverage.Proofs.SourceMap.Numbers
import MappedCoverage.Proofs.Text.Pieces
import MappedCoverage.Proofs.SourceMap.Mappings
import MappedCoverage.Proofs.SourceMap.Writing
import MappedCoverage.Proofs.SourceMap.Comments
import MappedCoverage.Proofs.Annotated.Rows
import MappedCoverage.Proofs.Annotated.Alignment
import MappedCoverage.Proofs.Annotated.Comments
import MappedCoverage.Proofs.Annotated.Layout
import MappedCoverage.Proofs.Annotated.Sources
import MappedCoverage.Proofs.SourceMap.Bounds
import MappedCoverage.Proofs.Annotated.Failures
import MappedCoverage.Proofs.Annotated.Repeating
import MappedCoverage.Proofs.Failure.Attempts
import MappedCoverage.Proofs.Glob.Matching
import MappedCoverage.Proofs.Glob.Reading
import MappedCoverage.Proofs.Glob.Sets
import MappedCoverage.Proofs.Glob.Composition
import MappedCoverage.Proofs.Glob.Pieces
import MappedCoverage.Proofs.Gate.Selection
import MappedCoverage.Proofs.Gate.Tests
import MappedCoverage.Proofs.Sorted.Tables
import MappedCoverage.Proofs.Path.Order
import MappedCoverage.Proofs.Session.Actions
import MappedCoverage.Proofs.Path.Spellings
import MappedCoverage.Proofs.Store.Paths
import MappedCoverage.Proofs.Store.Writes
import MappedCoverage.Proofs.Pipeline.Steps
import MappedCoverage.Proofs.Pipeline.Stores
import MappedCoverage.Proofs.Pipeline.Loads
import MappedCoverage.Proofs.Coverage.Recordings
import MappedCoverage.Proofs.Coverage.Merging
import MappedCoverage.Proofs.Coverage.Collecting
import MappedCoverage.Proofs.Shared.Handles
import MappedCoverage.Proofs.Store.Handles
import MappedCoverage.Proofs.Coverage.Sinks
import MappedCoverage.Proofs.Document.Records
import MappedCoverage.Proofs.Config.Rereading
import MappedCoverage.Proofs.Config.Passing
import MappedCoverage.Proofs.Config.Shapes
import MappedCoverage.Proofs.Config.Malformed
import MappedCoverage.Proofs.Run.Accounts
import MappedCoverage.Proofs.Run.Parts
import MappedCoverage.Proofs.Run.Accounting
import MappedCoverage.Proofs.Run.Stages
import MappedCoverage.Proofs.Run.Reports
import MappedCoverage.Proofs.Unicode.Classes
import MappedCoverage.Proofs.Regex.Ends
import MappedCoverage.Proofs.Regex.Matching
import MappedCoverage.Proofs.Regex.Reading
import MappedCoverage.Proofs.SourceMap.Pattern
import MappedCoverage.Proofs.SourceMap.Searching
import MappedCoverage.Proofs.Plan.Anchoring
import MappedCoverage.Proofs.Gate.Defaults
import MappedCoverage.Proofs.Gate.Rejection
import MappedCoverage.Proofs.Plan.Parties
import MappedCoverage.Proofs.Plan.Files
import MappedCoverage.Proofs.Plan.Starting
import MappedCoverage.Proofs.SourceMap.Sums
import MappedCoverage.Proofs.Regex.Escaping
import MappedCoverage.Proofs.Grep.Sources
import MappedCoverage.Proofs.Regex.Replacing
import MappedCoverage.Proofs.Indentation.Tabs
import MappedCoverage.Proofs.Document.Removal
import MappedCoverage.Proofs.Config.Order
