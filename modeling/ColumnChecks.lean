import ColumnChecks.CommandLine.Failure
import ColumnChecks.CommandLine.Files
import ColumnChecks.CommandLine.Help
import ColumnChecks.CommandLine.Invocation
import ColumnChecks.CommandLine.Options
import ColumnChecks.CommandLine.Run
import ColumnChecks.Connection.LockTimeout
import ColumnChecks.Connection.Redaction
import ColumnChecks.Decimal.Basic
import ColumnChecks.Decimal.Layout
import ColumnChecks.Decimal.Reading
import ColumnChecks.Decimal.Shortest
import ColumnChecks.Decimal.Stepwise
import ColumnChecks.Document.Basic
import ColumnChecks.Document.Checking
import ColumnChecks.Document.Issue
import ColumnChecks.Document.Schema
import ColumnChecks.Hash.Sha256
import ColumnChecks.Json.Basic
import ColumnChecks.Json.Draft
import ColumnChecks.Json.Printer
import ColumnChecks.Json.Schema
import ColumnChecks.Json.Violation
import ColumnChecks.Main
import ColumnChecks.Naming
import ColumnChecks.Pattern.Bracket
import ColumnChecks.Pattern.Compile
import ColumnChecks.Pattern.Cursor
import ColumnChecks.Pattern.Escape
import ColumnChecks.Pattern.Excerpt
import ColumnChecks.Pattern.Fault
import ColumnChecks.Pattern.Group
import ColumnChecks.Pattern.Meaning
import ColumnChecks.Pattern.Parser
import ColumnChecks.Pattern.Portable
import ColumnChecks.Pattern.Regex
import ColumnChecks.Pattern.Search
import ColumnChecks.Pattern.Size
import ColumnChecks.Pattern.Tree
import ColumnChecks.Plan.Host
import ColumnChecks.Plan.Planner
import ColumnChecks.Plan.Present
import ColumnChecks.Plan.RowCheck
import ColumnChecks.Plan.Statement
import ColumnChecks.Proofs.CommandLine.Agreement
import ColumnChecks.Proofs.CommandLine.Scripts
import ColumnChecks.Proofs.Connection.Redaction
import ColumnChecks.Proofs.Decimal.Exact
import ColumnChecks.Proofs.Decimal.Grid
import ColumnChecks.Proofs.Decimal.Integers
import ColumnChecks.Proofs.Decimal.Multiples
import ColumnChecks.Proofs.Decimal.Numeral
import ColumnChecks.Proofs.Decimal.RoundTrip
import ColumnChecks.Proofs.Decimal.Stepwise
import ColumnChecks.Proofs.Document.Accepted
import ColumnChecks.Proofs.Document.Findings
import ColumnChecks.Proofs.Document.Structure
import ColumnChecks.Proofs.Json.Canonical
import ColumnChecks.Proofs.Json.Decimals
import ColumnChecks.Proofs.Json.Numbers
import ColumnChecks.Proofs.Json.Reading
import ColumnChecks.Proofs.Json.Schema
import ColumnChecks.Proofs.Json.Texts
import ColumnChecks.Proofs.Naming.Characters
import ColumnChecks.Proofs.Naming.Coincidence
import ColumnChecks.Proofs.Naming.Length
import ColumnChecks.Proofs.Naming.Ownership
import ColumnChecks.Proofs.Pattern.Anchors
import ColumnChecks.Proofs.Pattern.Bare
import ColumnChecks.Proofs.Pattern.Behind.Brackets
import ColumnChecks.Proofs.Pattern.Behind.Cursors
import ColumnChecks.Proofs.Pattern.Behind.Escapes
import ColumnChecks.Proofs.Pattern.Behind.Groups
import ColumnChecks.Proofs.Pattern.Behind.Runs
import ColumnChecks.Proofs.Pattern.Behind.Steps
import ColumnChecks.Proofs.Pattern.Brackets
import ColumnChecks.Proofs.Pattern.Escapes
import ColumnChecks.Proofs.Pattern.Folding
import ColumnChecks.Proofs.Pattern.Following
import ColumnChecks.Proofs.Pattern.Gate
import ColumnChecks.Proofs.Pattern.Groups
import ColumnChecks.Proofs.Pattern.Inventory
import ColumnChecks.Proofs.Pattern.Ordered
import ColumnChecks.Proofs.Pattern.Search
import ColumnChecks.Proofs.Plan.Catalog
import ColumnChecks.Proofs.Plan.Changes
import ColumnChecks.Proofs.Plan.Collision
import ColumnChecks.Proofs.Plan.Convergence
import ColumnChecks.Proofs.Plan.Desired
import ColumnChecks.Proofs.Plan.Effect
import ColumnChecks.Proofs.Plan.Listing
import ColumnChecks.Proofs.Plan.Order
import ColumnChecks.Proofs.Plan.Quoting
import ColumnChecks.Proofs.Plan.Record
import ColumnChecks.Proofs.Plan.Repetition
import ColumnChecks.Proofs.Plan.Retry
import ColumnChecks.Proofs.Plan.Rollout
import ColumnChecks.Proofs.Plan.Runs
import ColumnChecks.Proofs.Plan.Script
import ColumnChecks.Proofs.Plan.Separation
import ColumnChecks.Proofs.Plan.Steps
import ColumnChecks.Proofs.Plan.Storable
import ColumnChecks.Proofs.Plan.Tags
import ColumnChecks.Proofs.Results
import ColumnChecks.Proofs.Rule.Accepted
import ColumnChecks.Proofs.Rule.Bounds
import ColumnChecks.Proofs.Rule.Checks
import ColumnChecks.Proofs.Rule.Errors
import ColumnChecks.Proofs.Rule.Matching
import ColumnChecks.Proofs.Rule.Members
import ColumnChecks.Proofs.Rule.Mentions
import ColumnChecks.Proofs.Rule.Nodes
import ColumnChecks.Proofs.Rule.Patterns
import ColumnChecks.Proofs.Rule.Reading
import ColumnChecks.Proofs.Rule.RoundTrip
import ColumnChecks.Proofs.Rule.SameText
import ColumnChecks.Proofs.Rule.SameVerdict
import ColumnChecks.Proofs.Rule.Sameness
import ColumnChecks.Proofs.Rule.Satisfaction
import ColumnChecks.Proofs.Rule.Shape
import ColumnChecks.Proofs.Rule.Storable
import ColumnChecks.Proofs.Rule.Unsupported
import ColumnChecks.Proofs.Rule.Validity
import ColumnChecks.Proofs.Rule.Verdict
import ColumnChecks.Proofs.Rule.WellFormed
import ColumnChecks.Proofs.Rule.Zeros
import ColumnChecks.Proofs.Sql.Comments
import ColumnChecks.Proofs.Sql.Grammar
import ColumnChecks.Proofs.Sql.Judging
import ColumnChecks.Proofs.Sql.Kleene
import ColumnChecks.Proofs.Sql.Lexeme
import ColumnChecks.Proofs.Sql.Lexing
import ColumnChecks.Proofs.Sql.Reading
import ColumnChecks.Proofs.Sql.Recasting
import ColumnChecks.Proofs.Sql.Spelling
import ColumnChecks.Proofs.Sql.Statements
import ColumnChecks.Proofs.Sql.Strict
import ColumnChecks.Proofs.Sql.Token
import ColumnChecks.Proofs.Text.CharSet
import ColumnChecks.Proofs.Text.Cutting
import ColumnChecks.Proofs.Text.Lines
import ColumnChecks.Rule.Basic
import ColumnChecks.Rule.Builder
import ColumnChecks.Rule.Json
import ColumnChecks.Rule.Predicate
import ColumnChecks.Rule.Validity
import ColumnChecks.Settings
import ColumnChecks.Sql.Dialect
import ColumnChecks.Sql.Evaluate
import ColumnChecks.Sql.Expr
import ColumnChecks.Sql.Identifier
import ColumnChecks.Text.Blank
import ColumnChecks.Text.CharSet
import ColumnChecks.Text.Quoted
import ColumnChecks.Toml.Reader
import ColumnChecks.Toml.Scalar
import ColumnChecks.Toml.Table
import ColumnChecks.Unicode.BreakTable
import ColumnChecks.Unicode.CategoryTable
import ColumnChecks.Unicode.Class
import ColumnChecks.Unicode.Fold
import ColumnChecks.Unicode.FoldTable
import ColumnChecks.Unicode.PropertyTable
import ColumnChecks.Unicode.ScriptTable
import ColumnChecks.Value
