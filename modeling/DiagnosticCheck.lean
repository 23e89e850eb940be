import DiagnosticCheck.Crash
import DiagnosticCheck.Floating
import DiagnosticCheck.Text.Unicode.Ranges
import DiagnosticCheck.Text.Unicode.Space
import DiagnosticCheck.Text.Unicode.Printable
import DiagnosticCheck.Text.Unicode.Alphabetic
import DiagnosticCheck.Text.Unicode.Numeric
import DiagnosticCheck.Text.Unicode.Decimal
import DiagnosticCheck.Text.Unicode.Identifier
import DiagnosticCheck.Text.Unicode.CaseContext
import DiagnosticCheck.Text.Unicode.Case
import DiagnosticCheck.Text.Unicode.Names
import DiagnosticCheck.Text.Escape
import DiagnosticCheck.Text.Cite
import DiagnosticCheck.Text.Base64
import DiagnosticCheck.Text.Basic
import DiagnosticCheck.Literal
import DiagnosticCheck.Output
import DiagnosticCheck.Location
import DiagnosticCheck.Entry
import DiagnosticCheck.Regex.Syntax
import DiagnosticCheck.Regex.Error
import DiagnosticCheck.Regex.Width
import DiagnosticCheck.Regex.Parser
import DiagnosticCheck.Regex.Classes
import DiagnosticCheck.Regex.Search
import DiagnosticCheck.Regex.Compile
import DiagnosticCheck.Json
import DiagnosticCheck.Data
import DiagnosticCheck.Numeral
import DiagnosticCheck.Validation
import DiagnosticCheck.Text.Utf8
import DiagnosticCheck.Workspace
import DiagnosticCheck.Expectation
import DiagnosticCheck.Fixture
import DiagnosticCheck.Directive
import DiagnosticCheck.Discrepancy
import DiagnosticCheck.Verdict
import DiagnosticCheck.Check
import DiagnosticCheck.Settings
import DiagnosticCheck.Yaml.Mark
import DiagnosticCheck.Yaml.Token
import DiagnosticCheck.Yaml.Scanner.Basic
import DiagnosticCheck.Yaml.Scanner.Scalar
import DiagnosticCheck.Yaml.Scanner.Property
import DiagnosticCheck.Yaml.Scanner
import DiagnosticCheck.Yaml.Event
import DiagnosticCheck.Yaml.Parser
import DiagnosticCheck.Yaml.Resolve
import DiagnosticCheck.Yaml.Node
import DiagnosticCheck.Yaml.Value
import DiagnosticCheck.Yaml.Load
import DiagnosticCheck.Settings.Load
import DiagnosticCheck.Command
import DiagnosticCheck.Main
import DiagnosticCheck.Proofs.Accounting
import DiagnosticCheck.Proofs.Quoting
import DiagnosticCheck.Proofs.LineReading
import DiagnosticCheck.Proofs.Annotation
import DiagnosticCheck.Proofs.Splitting
import DiagnosticCheck.Proofs.Blocks
import DiagnosticCheck.Proofs.Ordering
import DiagnosticCheck.Proofs.Failures
import DiagnosticCheck.Proofs.LiteralGrammar
import DiagnosticCheck.Proofs.Completeness
import DiagnosticCheck.Proofs.EntryParts
import DiagnosticCheck.Proofs.JsonNormalForm
import DiagnosticCheck.Proofs.Shortening
import DiagnosticCheck.Proofs.ExitCodes
