import DegreeAudit.Audit.Document
import DegreeAudit.Audit.Evaluation
import DegreeAudit.Audit.Report
import DegreeAudit.Audit.Summary
import DegreeAudit.Bucket
import DegreeAudit.Catalog
import DegreeAudit.Classification
import DegreeAudit.CommandLine.Arguments
import DegreeAudit.CommandLine.Command
import DegreeAudit.CommandLine.Effect
import DegreeAudit.CommandLine.Grammar
import DegreeAudit.CommandLine.Inspection
import DegreeAudit.CommandLine.Reach
import DegreeAudit.CommandLine.Run
import DegreeAudit.Compound
import DegreeAudit.Course
import DegreeAudit.Encoding.Detect
import DegreeAudit.Encoding.Fault
import DegreeAudit.Encoding.Utf8
import DegreeAudit.Encoding.Wide
import DegreeAudit.Holdings
import DegreeAudit.Json.Basic
import DegreeAudit.Json.Display
import DegreeAudit.Json.Fault
import DegreeAudit.Json.Field
import DegreeAudit.Json.Reader
import DegreeAudit.Json.Writer
import DegreeAudit.Main
import DegreeAudit.Notice
import DegreeAudit.Number.Binary
import DegreeAudit.Number.Decimal
import DegreeAudit.Number.Layout
import DegreeAudit.Number.Reader
import DegreeAudit.Packaged.Catalog
import DegreeAudit.Packaged.Requirements
import DegreeAudit.Page.Extraction
import DegreeAudit.Page.Row
import DegreeAudit.Page.Selection
import DegreeAudit.Page.Word
import DegreeAudit.Pattern.Matcher
import DegreeAudit.Pattern.Reader
import DegreeAudit.Pattern.Syntax
import DegreeAudit.Planner.Identifier
import DegreeAudit.Planner.Operation
import DegreeAudit.Planner.Operations
import DegreeAudit.Planner.Snapshot
import DegreeAudit.Planner.State
import DegreeAudit.Requirement.Basic
import DegreeAudit.Requirement.Clause
import DegreeAudit.Requirement.Document
import DegreeAudit.Settings
import DegreeAudit.Slice
import DegreeAudit.Storage.DataFile
import DegreeAudit.Storage.FileTree
import DegreeAudit.Storage.Path
import DegreeAudit.Storage.Reading
import DegreeAudit.Storage.StateFile
import DegreeAudit.Tally
import DegreeAudit.Text.Blank
import DegreeAudit.Text.CaseTable
import DegreeAudit.Text.CaseVariants
import DegreeAudit.Text.CasedTable
import DegreeAudit.Text.CharacterName
import DegreeAudit.Text.CharacterNameTable
import DegreeAudit.Text.CodeRange
import DegreeAudit.Text.Digit
import DegreeAudit.Text.LetterCase
import DegreeAudit.Text.NameTable
import DegreeAudit.Text.Newline
import DegreeAudit.Text.PrintableTable
import DegreeAudit.Text.Quoted
import DegreeAudit.Text.Split
import DegreeAudit.Text.WordTable
import DegreeAudit.TrackType
import DegreeAudit.Transcript.Cells
import DegreeAudit.Transcript.Code
import DegreeAudit.Transcript.Credit
import DegreeAudit.Transcript.Name
import DegreeAudit.Transcript.Paste
import DegreeAudit.Proofs.Classification
import DegreeAudit.Proofs.Audit.Buckets
import DegreeAudit.Proofs.Audit.Codes
import DegreeAudit.Proofs.Audit.Figures
import DegreeAudit.Proofs.Audit.Fulfilment
import DegreeAudit.Proofs.Audit.Growth
import DegreeAudit.Proofs.Audit.Indifference
import DegreeAudit.Proofs.Audit.Reassignment
import DegreeAudit.Proofs.Audit.Verdict
import DegreeAudit.Proofs.CommandLine.Commands
import DegreeAudit.Proofs.CommandLine.DataFiles
import DegreeAudit.Proofs.CommandLine.Inspection
import DegreeAudit.Proofs.CommandLine.Runs
import DegreeAudit.Proofs.CommandLine.SelectedRows
import DegreeAudit.Proofs.CommandLine.Sequences
import DegreeAudit.Proofs.CommandLine.Untouched
import DegreeAudit.Proofs.Json.Display
import DegreeAudit.Proofs.Json.Magnitude
import DegreeAudit.Proofs.Number.Decimal
import DegreeAudit.Proofs.Number.Exact
import DegreeAudit.Proofs.Number.Numeral
import DegreeAudit.Proofs.Number.Overflow
import DegreeAudit.Proofs.Packaged.Requirements
import DegreeAudit.Proofs.Planner.Compounds
import DegreeAudit.Proofs.Planner.Documents
import DegreeAudit.Proofs.Planner.Failures
import DegreeAudit.Proofs.Planner.Identity
import DegreeAudit.Proofs.Planner.Pasting
import DegreeAudit.Proofs.Planner.Reclassification
import DegreeAudit.Proofs.Planner.Removal
import DegreeAudit.Proofs.Planner.Repasting
import DegreeAudit.Proofs.Planner.Spelling
import DegreeAudit.Proofs.Planner.TrackChange
import DegreeAudit.Proofs.Requirement.Checklists
import DegreeAudit.Proofs.Requirement.Document
import DegreeAudit.Proofs.Requirement.Options
import DegreeAudit.Proofs.Requirement.WellFormed
import DegreeAudit.Proofs.Page.Cells
import DegreeAudit.Proofs.Page.Grouping
import DegreeAudit.Proofs.Page.Lines
import DegreeAudit.Proofs.Page.Measures
import DegreeAudit.Proofs.Page.Reordering
import DegreeAudit.Proofs.Page.Rows
import DegreeAudit.Proofs.Page.Selection
import DegreeAudit.Proofs.Page.Sorting
import DegreeAudit.Proofs.Page.Words
import DegreeAudit.Proofs.Storage.Loading
import DegreeAudit.Proofs.Storage.Saving
import DegreeAudit.Proofs.Transcript.Account
import DegreeAudit.Proofs.Transcript.Cells
import DegreeAudit.Proofs.Transcript.Cleaning
import DegreeAudit.Proofs.Transcript.Code
import DegreeAudit.Proofs.Transcript.CodeSearch
import DegreeAudit.Proofs.Transcript.Credit
import DegreeAudit.Proofs.Transcript.CreditSearch
import DegreeAudit.Proofs.Transcript.LaterColumns
import DegreeAudit.Proofs.Transcript.NameSearch
import DegreeAudit.Proofs.Transcript.NumberSearch
import DegreeAudit.Proofs.Transcript.Reading
import DegreeAudit.Proofs.Transcript.Table
