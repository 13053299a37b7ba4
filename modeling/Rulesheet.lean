import Rulesheet.Binary64
import Rulesheet.Binary64.Arithmetic
import Rulesheet.Binary64.Shortest
import Rulesheet.Calendar
import Rulesheet.Cell
import Rulesheet.Columns
import Rulesheet.CommandLine
import Rulesheet.Data.Distinct
import Rulesheet.Data.Fault
import Rulesheet.Data.Scalar
import Rulesheet.Data.Store
import Rulesheet.Definition
import Rulesheet.Definition.Declaration
import Rulesheet.Document
import Rulesheet.Document.Defaults
import Rulesheet.Document.Markup
import Rulesheet.Environment
import Rulesheet.ErrorLog
import Rulesheet.Execution
import Rulesheet.Files.Decoding
import Rulesheet.Files.Path
import Rulesheet.Files.Tree
import Rulesheet.Files.Workbook
import Rulesheet.Filter
import Rulesheet.Log
import Rulesheet.Main
import Rulesheet.Numeral
import Rulesheet.Output
import Rulesheet.Progress
import Rulesheet.Registry
import Rulesheet.Result
import Rulesheet.Run
import Rulesheet.Scan
import Rulesheet.Sequence
import Rulesheet.Session
import Rulesheet.Settings
import Rulesheet.Settings.Draft
import Rulesheet.Settings.Loading
import Rulesheet.Settings.Schema
import Rulesheet.Text.Base64
import Rulesheet.Text.Blank
import Rulesheet.Text.Digit
import Rulesheet.Text.Lower
import Rulesheet.Text.Pieces
import Rulesheet.Text.Quoted
import Rulesheet.Text.Ranges
import Rulesheet.Text.Utf8
import Rulesheet.Text.Word
import Rulesheet.Worksheet
import Rulesheet.Worksheet.Frame
import Rulesheet.Worksheet.Grid
import Rulesheet.Worksheet.Serial
import Rulesheet.Worksheet.SheetName
import Rulesheet.Worksheet.Stored
import Rulesheet.Yaml.Node
import Rulesheet.Yaml.Tag
import Rulesheet.Yaml.Timestamp
import Rulesheet.Yaml.Token
import Rulesheet.Yaml.Value
import Rulesheet.Proofs.Binary64
import Rulesheet.Proofs.BlankEdits
import Rulesheet.Proofs.BlankRows
import Rulesheet.Proofs.Columns
import Rulesheet.Proofs.Conservation
import Rulesheet.Proofs.Data.Ends
import Rulesheet.Proofs.Data.Tame
import Rulesheet.Proofs.Definition.Grammar
import Rulesheet.Proofs.Definition.Pattern
import Rulesheet.Proofs.Definition.Resolution
import Rulesheet.Proofs.Definition.RoundTrip
import Rulesheet.Proofs.Definition.Scanning
import Rulesheet.Proofs.Definition.Spelling
import Rulesheet.Proofs.Definition.Words
import Rulesheet.Proofs.Displayed
import Rulesheet.Proofs.Document.Blocks
import Rulesheet.Proofs.Document.Content
import Rulesheet.Proofs.Document.Defaults
import Rulesheet.Proofs.Document.Reading
import Rulesheet.Proofs.Document.WellFormed
import Rulesheet.Proofs.DocumentNames
import Rulesheet.Proofs.ErrorLog
import Rulesheet.Proofs.ErrorLog.Journal
import Rulesheet.Proofs.ErrorLog.Reading
import Rulesheet.Proofs.Execution
import Rulesheet.Proofs.Execution.Checked
import Rulesheet.Proofs.Execution.Outcomes
import Rulesheet.Proofs.Files.Addressing
import Rulesheet.Proofs.Files.Changing
import Rulesheet.Proofs.Files.Editing
import Rulesheet.Proofs.Files.Making
import Rulesheet.Proofs.Files.Naming
import Rulesheet.Proofs.Files.Placing
import Rulesheet.Proofs.Files.Walking
import Rulesheet.Proofs.Frame
import Rulesheet.Proofs.Log
import Rulesheet.Proofs.Log.Calls
import Rulesheet.Proofs.Markup.Reading
import Rulesheet.Proofs.Markup.WellFormed
import Rulesheet.Proofs.Output
import Rulesheet.Proofs.Output.Completion
import Rulesheet.Proofs.Output.Overwriting
import Rulesheet.Proofs.Pairing
import Rulesheet.Proofs.Partition
import Rulesheet.Proofs.PartitionLaw
import Rulesheet.Proofs.Registry
import Rulesheet.Proofs.Registry.Documents
import Rulesheet.Proofs.Rows
import Rulesheet.Proofs.Run
import Rulesheet.Proofs.Scan
import Rulesheet.Proofs.Scan.Resuming
import Rulesheet.Proofs.Sequence
import Rulesheet.Proofs.Session
import Rulesheet.Proofs.Session.Accounts
import Rulesheet.Proofs.Session.Announcements
import Rulesheet.Proofs.Session.Configuration
import Rulesheet.Proofs.Session.Ending
import Rulesheet.Proofs.Settings.Accepted
import Rulesheet.Proofs.Settings.Loading
import Rulesheet.Proofs.Settings.Sane
import Rulesheet.Proofs.Text.Encoding
import Rulesheet.Proofs.Text.Pieces
import Rulesheet.Proofs.Text.Utf8
import Rulesheet.Proofs.Yaml.Building
import Rulesheet.Proofs.Yaml.Merging
