import TemplateLint.Analysis.Caching
import TemplateLint.Analysis.Context
import TemplateLint.Analysis.EdgeCases
import TemplateLint.Analysis.Issues
import TemplateLint.Analysis.LoopDetectors
import TemplateLint.Analysis.Optimizations
import TemplateLint.Analysis.Template
import TemplateLint.Antlers.Tag
import TemplateLint.Block.Arguments
import TemplateLint.Block.Loop
import TemplateLint.Block.Pairing
import TemplateLint.Block.Token
import TemplateLint.Command.Basic
import TemplateLint.Command.Options
import TemplateLint.Dialect
import TemplateLint.Entries
import TemplateLint.Failure
import TemplateLint.Fault
import TemplateLint.Finding
import TemplateLint.Fix
import TemplateLint.Format.Encoding
import TemplateLint.Format.Json
import TemplateLint.Format.Notice
import TemplateLint.Format.Output
import TemplateLint.Format.Plain
import TemplateLint.Format.Result
import TemplateLint.Format.Terminal
import TemplateLint.Halt
import TemplateLint.Heuristics
import TemplateLint.Lint
import TemplateLint.Logging
import TemplateLint.Main
import TemplateLint.Metrics
import TemplateLint.Number.Basic
import TemplateLint.Number.Binary64
import TemplateLint.Number.Decimal
import TemplateLint.Number.Reading
import TemplateLint.Operation.Analyze
import TemplateLint.Operation.Gather
import TemplateLint.Operation.Lint
import TemplateLint.Operation.Suggest
import TemplateLint.Outcome
import TemplateLint.Policy
import TemplateLint.Proofs.Analysis.Answers
import TemplateLint.Proofs.Analysis.Caps
import TemplateLint.Proofs.Analysis.Memory
import TemplateLint.Proofs.Analysis.Options
import TemplateLint.Proofs.Analysis.Ordinary
import TemplateLint.Proofs.Analysis.Relationship
import TemplateLint.Proofs.Analysis.Told
import TemplateLint.Proofs.Analysis.Unescaped
import TemplateLint.Proofs.Analysis.Unused
import TemplateLint.Proofs.Analysis.Words
import TemplateLint.Proofs.Answers
import TemplateLint.Proofs.Antlers.Comment
import TemplateLint.Proofs.Antlers.Layout
import TemplateLint.Proofs.Antlers.Pieces
import TemplateLint.Proofs.Antlers.Pipes
import TemplateLint.Proofs.Antlers.Resumed
import TemplateLint.Proofs.Antlers.Scanned
import TemplateLint.Proofs.Antlers.Settled
import TemplateLint.Proofs.Antlers.Spacing
import TemplateLint.Proofs.Antlers.Swallowed
import TemplateLint.Proofs.Antlers.Written
import TemplateLint.Proofs.Block.ArgumentList
import TemplateLint.Proofs.Block.Balanced
import TemplateLint.Proofs.Block.Depth
import TemplateLint.Proofs.Block.DirectBody
import TemplateLint.Proofs.Block.Directive
import TemplateLint.Proofs.Block.Joined
import TemplateLint.Proofs.Block.Matching
import TemplateLint.Proofs.Block.Moved
import TemplateLint.Proofs.Block.Nests
import TemplateLint.Proofs.Block.Restriction
import TemplateLint.Proofs.Block.Roles
import TemplateLint.Proofs.Block.Spans
import TemplateLint.Proofs.Block.Surplus
import TemplateLint.Proofs.Block.TagTokens
import TemplateLint.Proofs.Block.Walk
import TemplateLint.Proofs.Entries
import TemplateLint.Proofs.Fix.Agreement
import TemplateLint.Proofs.Fix.Image
import TemplateLint.Proofs.Fix.Progress
import TemplateLint.Proofs.Fix.Values
import TemplateLint.Proofs.Format.Notice
import TemplateLint.Proofs.Number.Order
import TemplateLint.Proofs.Number.Range
import TemplateLint.Proofs.Number.Rounded
import TemplateLint.Proofs.Number.Rounding
import TemplateLint.Proofs.Operation.Answers
import TemplateLint.Proofs.Operation.Ordinary
import TemplateLint.Proofs.Report.Draft
import TemplateLint.Proofs.Report.Growth
import TemplateLint.Proofs.Report.Range
import TemplateLint.Proofs.Report.Score
import TemplateLint.Proofs.Rule.Located
import TemplateLint.Proofs.Rule.Reported
import TemplateLint.Proofs.Rule.Selection
import TemplateLint.Proofs.Settings.Accepted
import TemplateLint.Proofs.Settings.Escaping
import TemplateLint.Proofs.Settings.Loading
import TemplateLint.Proofs.Settings.Merging
import TemplateLint.Proofs.Settings.Sources
import TemplateLint.Proofs.Source.Collected
import TemplateLint.Proofs.Source.Path
import TemplateLint.Proofs.Source.Positions
import TemplateLint.Proofs.Stops
import TemplateLint.Proofs.Suggestion.Layout
import TemplateLint.Proofs.Suggestion.Merged
import TemplateLint.Proofs.Suggestion.Ranked
import TemplateLint.Proofs.Suggestion.Subject
import TemplateLint.Proofs.Text.Cut
import TemplateLint.Proofs.Text.Extended
import TemplateLint.Proofs.Text.First
import TemplateLint.Proofs.Text.Forward
import TemplateLint.Proofs.Text.LineIndex
import TemplateLint.Proofs.Text.Lines
import TemplateLint.Proofs.Text.Matches
import TemplateLint.Proofs.Text.Occurrences
import TemplateLint.Proofs.Text.Reading
import TemplateLint.Proofs.Text.Scanning
import TemplateLint.Proofs.Text.Ways
import TemplateLint.Report
import TemplateLint.Rule.Context
import TemplateLint.Rule.Document
import TemplateLint.Rule.Line
import TemplateLint.Rule.MarkupRules
import TemplateLint.Rule.PolicyRules
import TemplateLint.Rule.Set
import TemplateLint.Rule.Structure
import TemplateLint.Rule.TagRules
import TemplateLint.Settings.Basic
import TemplateLint.Settings.Environment
import TemplateLint.Settings.Field
import TemplateLint.Settings.Load
import TemplateLint.Settings.Order
import TemplateLint.Settings.Refusal
import TemplateLint.Source.Collection
import TemplateLint.Source.FileTree
import TemplateLint.Source.Path
import TemplateLint.Source.Template
import TemplateLint.Source.World
import TemplateLint.Suggestion.Advice
import TemplateLint.Suggestion.Basic
import TemplateLint.Suggestion.Plan
import TemplateLint.Text.Basic
import TemplateLint.Text.Blank
import TemplateLint.Text.Casing
import TemplateLint.Text.Digest
import TemplateLint.Text.Digits
import TemplateLint.Text.Identifier
import TemplateLint.Text.Letters
import TemplateLint.Text.LineIndex
import TemplateLint.Text.Lowercase
import TemplateLint.Text.Pattern
import TemplateLint.Text.Position
import TemplateLint.Text.Printable
import TemplateLint.Text.Quoted
import TemplateLint.Text.Search
import TemplateLint.Text.Similar
import TemplateLint.Text.Utf8
import TemplateLint.Toml.Document
import TemplateLint.Toml.Quoted
import TemplateLint.Toml.Scalar
import TemplateLint.Toml.Tree
import TemplateLint.Value
