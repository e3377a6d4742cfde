import LogAnalysis.Main
import LogAnalysis.Worker
import LogAnalysis.Proofs.Chunks
import LogAnalysis.Proofs.Query.Grammar
import LogAnalysis.Proofs.Query.Parsing
import LogAnalysis.Proofs.Query.Terms
import LogAnalysis.Proofs.Text.Characters
import LogAnalysis.Proofs.Query.Closing
import LogAnalysis.Proofs.Query.Tokens
import LogAnalysis.Proofs.Query.Composition
import LogAnalysis.Proofs.Query.Refusals
import LogAnalysis.Proofs.Run
import LogAnalysis.Proofs.Text.Search
import LogAnalysis.Proofs.Filter.Acceptance
import LogAnalysis.Proofs.Filter.Conditions
import LogAnalysis.Proofs.Query.Conditions
import LogAnalysis.Proofs.Search
import LogAnalysis.Proofs.Query.Flattening
import LogAnalysis.Proofs.Query.Negation
import LogAnalysis.Proofs.SortOrder
import LogAnalysis.Proofs.View
import LogAnalysis.Proofs.Extraction
import LogAnalysis.Proofs.Entry
import LogAnalysis.Proofs.Loading
import LogAnalysis.Proofs.Calls
import LogAnalysis.Proofs.Soundness
import LogAnalysis.Proofs.Numbering
import LogAnalysis.Proofs.Json.Strings
import LogAnalysis.Proofs.Json.Values
import LogAnalysis.Proofs.Json.Lines
import LogAnalysis.Proofs.Export
import LogAnalysis.Proofs.Json.Refusals
import LogAnalysis.Proofs.Worker.Compilation
import LogAnalysis.Proofs.Worker.Service
import LogAnalysis.Proofs.Text.Trimming
import LogAnalysis.Proofs.Text.Uppercase
import LogAnalysis.Proofs.Csv
import LogAnalysis.Proofs.Levels
import LogAnalysis.Proofs.Tables
import LogAnalysis.Proofs.Blocks
import LogAnalysis.Proofs.Requests
import LogAnalysis.Proofs.Fields
import LogAnalysis.Proofs.FreshStart
import LogAnalysis.Proofs.Calendar.Dates
import LogAnalysis.Proofs.Calendar.Notation
import LogAnalysis.Proofs.Timestamps
import LogAnalysis.Proofs.Statistics.Outcomes
import LogAnalysis.Proofs.Filter.Evaluation
import LogAnalysis.Proofs.Merging
import LogAnalysis.Proofs.Repetition
import LogAnalysis.Proofs.Registry.Calls
import LogAnalysis.Proofs.Registry.Flags
import LogAnalysis.Proofs.Registry.Snapshots
import LogAnalysis.Proofs.Calendar.Order
import LogAnalysis.Proofs.Normalization
import LogAnalysis.Proofs.Decimal.Doubles
import LogAnalysis.Proofs.Filter.Chronology
import LogAnalysis.Proofs.Decimal.Numbers
import LogAnalysis.Proofs.Decimal.Readers
import LogAnalysis.Proofs.Stamps
import LogAnalysis.Proofs.Prefixes
import LogAnalysis.Proofs.Calendar.Zoned
import LogAnalysis.Proofs.Calendar.Lexemes
import LogAnalysis.Proofs.Calendar.FreeForm
import LogAnalysis.Proofs.Zones
import LogAnalysis.Proofs.Pattern.Matching
import LogAnalysis.Proofs.Pattern.Reading
import LogAnalysis.Proofs.Query.Spelling
import LogAnalysis.Proofs.Query.Wildcards
import LogAnalysis.Proofs.Pattern.Rewriting
import LogAnalysis.Proofs.Query.Covering
import LogAnalysis.Proofs.Query.Slashes
import LogAnalysis.Proofs.Query.Forms
import LogAnalysis.Proofs.Query.Following
import LogAnalysis.Proofs.Query.Spacing
import LogAnalysis.Proofs.Query.Lists
import LogAnalysis.Proofs.Paging
import LogAnalysis.Proofs.Statistics.Counts
import LogAnalysis.Proofs.Statistics.Views
import LogAnalysis.Proofs.Statistics.Cardinality
import LogAnalysis.Proofs.Csv.Forms
import LogAnalysis.Proofs.Csv.Faults
import LogAnalysis.Proofs.Agreement
import LogAnalysis.Proofs.Documents
