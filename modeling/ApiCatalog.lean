import ApiCatalog.Analysis
import ApiCatalog.Candidate
import ApiCatalog.Catalog
import ApiCatalog.CommandLine.Arguments
import ApiCatalog.CommandLine.Execution
import ApiCatalog.CommandLine.Help
import ApiCatalog.CommandLine.Options
import ApiCatalog.Double
import ApiCatalog.Event
import ApiCatalog.Extraction
import ApiCatalog.Failure
import ApiCatalog.Field
import ApiCatalog.FileSystem
import ApiCatalog.Json
import ApiCatalog.Json.Reader
import ApiCatalog.Main
import ApiCatalog.Path
import ApiCatalog.Record
import ApiCatalog.RecordFile
import ApiCatalog.Rust.Cursor
import ApiCatalog.Rust.Functions
import ApiCatalog.Rust.Parser
import ApiCatalog.Rust.Token
import ApiCatalog.Rust.Types
import ApiCatalog.Settings
import ApiCatalog.SettingsFile
import ApiCatalog.Shape
import ApiCatalog.Source
import ApiCatalog.Target
import ApiCatalog.Text.Blank
import ApiCatalog.Text.Digit
import ApiCatalog.Text.Hex
import ApiCatalog.Text.Identifier
import ApiCatalog.Text.Lines
import ApiCatalog.Text.Order
import ApiCatalog.Text.Printable
import ApiCatalog.Text.Quoted
import ApiCatalog.Text.Uppercase
import ApiCatalog.Text.Utf8
import ApiCatalog.TextFile
import ApiCatalog.Toml.Fault
import ApiCatalog.Toml.Namespace
import ApiCatalog.Toml.Reader
import ApiCatalog.Toml.Scalar
import ApiCatalog.Toml.Writer
import ApiCatalog.Tree
import ApiCatalog.TypeExpr
import ApiCatalog.Validation
import ApiCatalog.Value
import ApiCatalog.Violation
import ApiCatalog.Workspace
import ApiCatalog.Proofs.Judgement
import ApiCatalog.Proofs.Declarations
import ApiCatalog.Proofs.Legibility
import ApiCatalog.Proofs.Acceptance
import ApiCatalog.Proofs.QuotedText
import ApiCatalog.Proofs.RecordRoundTrip
import ApiCatalog.Proofs.TokenSpans
import ApiCatalog.Proofs.Readers
import ApiCatalog.Proofs.FunctionTypes
import ApiCatalog.Proofs.Pipeline
import ApiCatalog.Proofs.Spelling
import ApiCatalog.Proofs.Order
import ApiCatalog.Proofs.Discovery
import ApiCatalog.Proofs.Independence
import ApiCatalog.Proofs.Loading
import ApiCatalog.Proofs.Verdicts
import ApiCatalog.Proofs.FileWriting
import ApiCatalog.Proofs.Ignoring
import ApiCatalog.Proofs.Delivery
import ApiCatalog.Proofs.JsonRoundTrip
import ApiCatalog.Proofs.StrictMode
import ApiCatalog.Proofs.SettingsFields
import ApiCatalog.Proofs.Precedence
import ApiCatalog.Proofs.Outcome
import ApiCatalog.Proofs.NormalSettings
import ApiCatalog.Proofs.LongNumbers
import ApiCatalog.Proofs.SettingsFaults
import ApiCatalog.Proofs.DiagnosticLines
import ApiCatalog.Proofs.Layout
import ApiCatalog.Proofs.Markers
import ApiCatalog.Proofs.FirstErrors
import ApiCatalog.Proofs.IgnoreLists
import ApiCatalog.Proofs.SettingsSearch
import ApiCatalog.Proofs.FieldRoundTrip
import ApiCatalog.Proofs.Attachment
import ApiCatalog.Proofs.AbiLiterals
