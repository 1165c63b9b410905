import Concord.CommandLine.Lookup
import Concord.CommandLine.Outcome
import Concord.CommandLine.Request
import Concord.Comparison
import Concord.Config
import Concord.Context
import Concord.Decode
import Concord.Drift.Checklist
import Concord.Drift.Presence
import Concord.Drift.Summary
import Concord.FieldPath
import Concord.Files.FileSystem
import Concord.Files.Path
import Concord.Files.Tree
import Concord.Grammar.Host
import Concord.Grammar.Mailbox
import Concord.Grammar.Moment
import Concord.Grammar.Uri
import Concord.Grammar.UriTemplate
import Concord.Inventories
import Concord.Json.Basic
import Concord.Json.Cursor
import Concord.Json.Equality
import Concord.Json.Pointer
import Concord.Json.Printer
import Concord.Json.Reader
import Concord.Json.Size
import Concord.Lint.Checks
import Concord.Lint.Finding
import Concord.Main
import Concord.Number.Real64
import Concord.Number.Shortest
import Concord.Proofs.FieldPath.Grammar
import Concord.Proofs.FieldPath.Reading
import Concord.Proofs.Table
import Concord.Proofs.Traversal
import Concord.Regex.Class
import Concord.Regex.Escape
import Concord.Regex.Match
import Concord.Regex.Parser
import Concord.Regex.Pattern
import Concord.Regex.Reading
import Concord.Regex.Size
import Concord.Regex.Syntax
import Concord.Report.ComparisonReport
import Concord.Report.Findings
import Concord.Report.Page
import Concord.Report.SectionTable
import Concord.Representation
import Concord.Schema.Fields
import Concord.SourceIssue
import Concord.Sources
import Concord.Table
import Concord.Text.Age
import Concord.Validation.Content
import Concord.Text.Binary
import Concord.Text.Runs
import Concord.Text.Break
import Concord.Text.CharSet
import Concord.Text.Category
import Concord.Text.Quoted
import Concord.Text.Interval
import Concord.Text.Property
import Concord.Text.Script
import Concord.Text.Uppercase
import Concord.Text.Utf8
import Concord.Validation.Check
import Concord.Validation.Constraint
import Concord.Validation.Documents
import Concord.Validation.Format
import Concord.Validation.Keyword
import Concord.Validation.Library
import Concord.Validation.MetaSchema
import Concord.Validation.Outcome
import Concord.Validation.Reading
import Concord.Validation.Validator
import Concord.Xml.Token
import Concord.Xml.Reader
import Concord.Xml.Tree
import Concord.Xsd.Document
import Concord.Xsd.Fields
import Concord.Yaml.CoreSchema
import Concord.Yaml.Layout
import Concord.Yaml.Node
import Concord.Yaml.Place
import Concord.Yaml.Scalar
import Concord.Yaml.Token
import Concord.Yaml.WrittenNode
import Concord.Proofs.Drift.Agreement
import Concord.Proofs.Json.Members
import Concord.Proofs.Schema.Fields
import Concord.Proofs.Comparison.Outline
import Concord.Proofs.Comparison.InSync
import Concord.Proofs.Comparison.Fault
import Concord.Proofs.Comparison.Documents
import Concord.Proofs.Inventories
import Concord.Proofs.Sources
import Concord.Proofs.Comparison.Isolation
import Concord.Proofs.Schema.Chain
import Concord.Proofs.Drift.RowClass
import Concord.Proofs.Drift.SectionFindings
import Concord.Proofs.Drift.MetaSchema
import Concord.Proofs.Xsd.Sections
import Concord.Proofs.Comparison.Coverage
import Concord.Proofs.Drift.ContextGrowth
import Concord.Proofs.Comparison.Ledger
import Concord.Proofs.Lint.Checks
import Concord.Proofs.Lint.Acceptance
import Concord.Proofs.Lint.Blocks
import Concord.Proofs.Lint.Loading
import Concord.Proofs.Comparison.Subtraction
import Concord.Proofs.Validation.Siblings
import Concord.Proofs.FieldPath.Fault
import Concord.Proofs.Schema.Depth
import Concord.Proofs.Xsd.Layers
import Concord.Proofs.CommandLine.Outcome
import Concord.Proofs.Drift.Unmatched
import Concord.Proofs.Lint.Mappings
import Concord.Proofs.Lint.Identifiers
import Concord.Proofs.FieldPath.Ending
import Concord.Proofs.Context
import Concord.Proofs.Files.Path
import Concord.Proofs.Validation.Exclusion
import Concord.Proofs.Drift.SectionRows
import Concord.Proofs.Xsd.Document
import Concord.Proofs.Report.SectionTable
