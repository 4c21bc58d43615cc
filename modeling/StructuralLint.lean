import StructuralLint.Command.Crew
import StructuralLint.Command.Dump
import StructuralLint.Command.Error
import StructuralLint.Command.Flag
import StructuralLint.Command.Help
import StructuralLint.Command.Inputs
import StructuralLint.Command.Outcome
import StructuralLint.Command.Plan
import StructuralLint.Command.Run
import StructuralLint.Command.Task
import StructuralLint.Document.Classify
import StructuralLint.Document.Line
import StructuralLint.Document.Node
import StructuralLint.Document.Scanner
import StructuralLint.Document.Source
import StructuralLint.Files.Expand
import StructuralLint.Files.Linter
import StructuralLint.Files.Path
import StructuralLint.Files.Session
import StructuralLint.Files.System
import StructuralLint.Json.Basic
import StructuralLint.Json.Read
import StructuralLint.Lint.Delimiter
import StructuralLint.Lint.Diagnostic
import StructuralLint.Lint.Linter
import StructuralLint.Lint.Session
import StructuralLint.Lint.Structure
import StructuralLint.Log.Entry
import StructuralLint.Log.Level
import StructuralLint.Log.Logger
import StructuralLint.Log.Written
import StructuralLint.Main
import StructuralLint.Number.Binary64
import StructuralLint.Number.Integer
import StructuralLint.Number.Power
import StructuralLint.Proofs.Text.Trim
import StructuralLint.Report.Basic
import StructuralLint.Report.Format
import StructuralLint.Report.Given
import StructuralLint.Report.Render
import StructuralLint.Report.Sink
import StructuralLint.Settings.Basic
import StructuralLint.Settings.Convert
import StructuralLint.Settings.Dotenv
import StructuralLint.Settings.Dotenv.Lines
import StructuralLint.Settings.Load
import StructuralLint.Settings.Value
import StructuralLint.Text.Basic
import StructuralLint.Text.Encoding
import StructuralLint.Text.Lower
import StructuralLint.Text.Printable
import StructuralLint.Text.Quoted
import StructuralLint.Text.Space
import StructuralLint.Text.Utf8
import StructuralLint.Time.Timestamp
import StructuralLint.Toml.Basic
import StructuralLint.Toml.Definitions
import StructuralLint.Toml.Document
import StructuralLint.Toml.Expression
import StructuralLint.Toml.Literal
import StructuralLint.Toml.Moment
import StructuralLint.Toml.Number
import StructuralLint.Toml.Quoted
import StructuralLint.Yaml.Characters
import StructuralLint.Yaml.Cursor
import StructuralLint.Yaml.Datum
import StructuralLint.Yaml.Decode
import StructuralLint.Yaml.Fault
import StructuralLint.Yaml.Flow
import StructuralLint.Yaml.Implicit
import StructuralLint.Yaml.Property
import StructuralLint.Yaml.Scan
import StructuralLint.Yaml.Style
import StructuralLint.Yaml.Tagged
import StructuralLint.Yaml.Token
import StructuralLint.Yaml.Tree
import StructuralLint.Proofs.Document.Classify
import StructuralLint.Proofs.Document.WellFormed
import StructuralLint.Proofs.Document.Context
import StructuralLint.Proofs.Lint.Check
import StructuralLint.Proofs.Lint.Clean
import StructuralLint.Proofs.Lint.Finding
import StructuralLint.Proofs.Lint.Insertion
import StructuralLint.Proofs.Document.Split
import StructuralLint.Proofs.Lint.Reading
import StructuralLint.Proofs.Lint.Fatal
import StructuralLint.Proofs.Lint.Neighbours
import StructuralLint.Proofs.Lint.Numbering
import StructuralLint.Proofs.Lint.Fallback
import StructuralLint.Proofs.Lint.Culprit
import StructuralLint.Proofs.Files.Path
import StructuralLint.Proofs.Files.Lookup
import StructuralLint.Proofs.Files.Tree
import StructuralLint.Proofs.Files.Expand
import StructuralLint.Proofs.Files.History
import StructuralLint.Proofs.Files.Reports
import StructuralLint.Proofs.Files.Resolve
import StructuralLint.Proofs.Files.Directory
import StructuralLint.Proofs.Command.Task
import StructuralLint.Proofs.Command.Pool
import StructuralLint.Proofs.Command.Crew
import StructuralLint.Proofs.Command.Exit
import StructuralLint.Proofs.Command.Dumped
import StructuralLint.Proofs.Command.Dump
import StructuralLint.Proofs.Document.LeadingSpace
import StructuralLint.Proofs.Document.Grammar
import StructuralLint.Proofs.Lint.Session
import StructuralLint.Proofs.Settings.Layers
import StructuralLint.Proofs.Document.Pieces
import StructuralLint.Proofs.Document.Written
import StructuralLint.Proofs.Lint.Marker
import StructuralLint.Proofs.Lint.Locality
import StructuralLint.Proofs.Lint.Trailing
import StructuralLint.Proofs.Document.Scanner
import StructuralLint.Proofs.Text.Encode
import StructuralLint.Proofs.Text.Quoted
import StructuralLint.Proofs.Files.Stream
import StructuralLint.Proofs.Report.Text
import StructuralLint.Proofs.Json.Literal
import StructuralLint.Proofs.Json.RoundTrip
import StructuralLint.Proofs.Report.Json
import StructuralLint.Proofs.Lint.Lookup
