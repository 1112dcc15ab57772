import Traceability.CommandLine
import Traceability.Decimal.Basic
import Traceability.Decimal.Shortest
import Traceability.Disk
import Traceability.Document.Block
import Traceability.Document.Chunk
import Traceability.Document.Fault
import Traceability.Document.Reading
import Traceability.Document.Span
import Traceability.Emphasis
import Traceability.Extraction
import Traceability.Finding
import Traceability.Glob
import Traceability.Identifier
import Traceability.IgnoreRules
import Traceability.Index.Basic
import Traceability.Index.Ledger
import Traceability.Json
import Traceability.Json.Place
import Traceability.Locator.Address
import Traceability.Locator.Basic
import Traceability.Locator.Domain.Basic
import Traceability.Locator.Domain.Mapping
import Traceability.Locator.Domain.Script
import Traceability.Locator.Host
import Traceability.Locator.Percent
import Traceability.Locator.Punycode
import Traceability.Locator.Route
import Traceability.Main
import Traceability.Marker
import Traceability.Path
import Traceability.Proofs.Document.BlankLine
import Traceability.Proofs.Document.Breaks
import Traceability.Proofs.Document.EscapedText
import Traceability.Proofs.Document.Escapes
import Traceability.Proofs.Document.Items
import Traceability.Proofs.Document.Moves
import Traceability.Proofs.Document.Paragraphs
import Traceability.Proofs.Document.Partition
import Traceability.Proofs.Document.Ranges
import Traceability.Proofs.Document.Rows
import Traceability.Proofs.Document.Shift
import Traceability.Proofs.Document.Source
import Traceability.Proofs.Document.Spans
import Traceability.Proofs.Document.Targets
import Traceability.Proofs.Document.Wrapping
import Traceability.Proofs.Extraction.Categories
import Traceability.Proofs.Extraction.Declarations
import Traceability.Proofs.Extraction.Definitions
import Traceability.Proofs.Extraction.EmptyTargets
import Traceability.Proofs.Extraction.Lines
import Traceability.Proofs.Extraction.Outline
import Traceability.Proofs.Extraction.Phrases
import Traceability.Proofs.Extraction.Placement
import Traceability.Proofs.Extraction.Ranges
import Traceability.Proofs.Extraction.Sources
import Traceability.Proofs.Extraction.Style
import Traceability.Proofs.Extraction.Walk
import Traceability.Proofs.Extraction.Wrapping
import Traceability.Proofs.Identifier
import Traceability.Proofs.Index.Calls
import Traceability.Proofs.Index.Coherence
import Traceability.Proofs.Index.Endings
import Traceability.Proofs.Index.Findings
import Traceability.Proofs.Index.FirstAnalysis
import Traceability.Proofs.Index.Flawless
import Traceability.Proofs.Index.History
import Traceability.Proofs.Index.Identifiers
import Traceability.Proofs.Index.Linked
import Traceability.Proofs.Index.Mirror
import Traceability.Proofs.Index.Phrases
import Traceability.Proofs.Index.Reanalysis
import Traceability.Proofs.Index.Remarks
import Traceability.Proofs.Index.Repetitions
import Traceability.Proofs.Locator.Detours
import Traceability.Proofs.Locator.FilePath
import Traceability.Proofs.Locator.FileUri
import Traceability.Proofs.Locator.PathBytes
import Traceability.Proofs.Locator.Percent
import Traceability.Proofs.Marker.Grammar
import Traceability.Proofs.Marker.Occurrences
import Traceability.Proofs.Marker.Order
import Traceability.Proofs.Report.Places
import Traceability.Proofs.Report.Verdict
import Traceability.Proofs.Session.Calls
import Traceability.Proofs.Session.Closing
import Traceability.Proofs.Session.Publishing
import Traceability.Proofs.Session.Run
import Traceability.Proofs.Session.Spelling
import Traceability.Proofs.Session.Tracking
import Traceability.Proofs.Session.View
import Traceability.Proofs.Session.WarmUp
import Traceability.Proofs.Severity
import Traceability.Proofs.Text.Columns
import Traceability.Proofs.Text.Fields
import Traceability.Proofs.Text.Lines
import Traceability.Proofs.Text.Offsets
import Traceability.Proofs.Text.Ranges
import Traceability.Proofs.Text.Spacing
import Traceability.Proofs.Word.Identifiers
import Traceability.Proofs.Word.Phrases
import Traceability.Proofs.Word.References
import Traceability.Proofs.Word.Runs
import Traceability.Proofs.Word.Spans
import Traceability.Proofs.Word.Unemphasised
import Traceability.Proofs.Workspace.Creation
import Traceability.Proofs.Workspace.Discovery
import Traceability.Proofs.Workspace.Kinds
import Traceability.Proofs.Workspace.Texts
import Traceability.Report
import Traceability.Session.Basic
import Traceability.Session.Message
import Traceability.Settings
import Traceability.Settings.Reading
import Traceability.Severity
import Traceability.Text.Alphanumeric
import Traceability.Text.CodeTable
import Traceability.Text.Composition.Basic
import Traceability.Text.Composition.Table
import Traceability.Text.Digit
import Traceability.Text.Line
import Traceability.Text.Offset
import Traceability.Text.Range
import Traceability.VersionControl
import Traceability.Word
import Traceability.Workspace
import Traceability.Yaml.Input
import Traceability.Yaml.Node
import Traceability.Yaml.Plain
import Traceability.Yaml.Scalar
import Traceability.Yaml.Token
