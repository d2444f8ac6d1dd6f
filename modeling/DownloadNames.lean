import DownloadNames.Address.Host
import DownloadNames.Address.Path
import DownloadNames.Assoc
import DownloadNames.Charset.Basic
import DownloadNames.Charset.Codecs
import DownloadNames.Charset.Percent
import DownloadNames.Charset.Punycode
import DownloadNames.Charset.Utf16
import DownloadNames.Charset.Utf8
import DownloadNames.CommandLine.Color
import DownloadNames.CommandLine.Command
import DownloadNames.CommandLine.Handler
import DownloadNames.CommandLine.Literal.Expression
import DownloadNames.CommandLine.Literal.Fault
import DownloadNames.CommandLine.Literal.Parameter
import DownloadNames.CommandLine.Literal.Part
import DownloadNames.CommandLine.Literal.Pattern
import DownloadNames.CommandLine.Literal.Reading
import DownloadNames.CommandLine.Literal.Token
import DownloadNames.CommandLine.Markup
import DownloadNames.CommandLine.Options
import DownloadNames.CommandLine.Pictogram
import DownloadNames.CommandLine.Pictogram.Table
import DownloadNames.CommandLine.Run
import DownloadNames.CommandLine.Session
import DownloadNames.CommandLine.Style
import DownloadNames.CommandLine.Variables
import DownloadNames.Decimal.Arithmetic
import DownloadNames.Decimal.Double
import DownloadNames.Decimal.Shortest
import DownloadNames.Document
import DownloadNames.Fault.Basic
import DownloadNames.Fault.Board
import DownloadNames.Fault.Code
import DownloadNames.Fault.Context
import DownloadNames.Fault.Suggestion
import DownloadNames.Header.Disposition
import DownloadNames.Header.Guess
import DownloadNames.Header.Mime
import DownloadNames.Header.Probe
import DownloadNames.Header.Resolver
import DownloadNames.Json.Reader
import DownloadNames.Json.Writer
import DownloadNames.Main
import DownloadNames.Path.Basic
import DownloadNames.Path.Join
import DownloadNames.Path.Normal
import DownloadNames.Path.Sanitize
import DownloadNames.Path.Valid
import DownloadNames.Proofs.Assoc
import DownloadNames.Proofs.Charset.Percent
import DownloadNames.Proofs.Charset.Utf8
import DownloadNames.Proofs.CommandLine.Presets
import DownloadNames.Proofs.CommandLine.Variables
import DownloadNames.Proofs.Fault.Growth
import DownloadNames.Proofs.Fault.Report
import DownloadNames.Proofs.Fault.Runs
import DownloadNames.Proofs.Fault.Suggestions
import DownloadNames.Proofs.Header.Disposition
import DownloadNames.Proofs.Header.ImageType
import DownloadNames.Proofs.Header.Resolution
import DownloadNames.Proofs.Header.SafeName
import DownloadNames.Proofs.Path.Clean
import DownloadNames.Proofs.Path.FileName
import DownloadNames.Proofs.Path.Join
import DownloadNames.Proofs.Path.Parts
import DownloadNames.Proofs.Path.Pieces
import DownloadNames.Proofs.Path.Repeat
import DownloadNames.Proofs.Path.Safe
import DownloadNames.Proofs.Settings.Checks
import DownloadNames.Proofs.Settings.Fields
import DownloadNames.Proofs.Settings.Precedence
import DownloadNames.Proofs.Settings.Reported
import DownloadNames.Proofs.Settings.Runs
import DownloadNames.Proofs.Settings.Sources
import DownloadNames.Proofs.Settings.Valid
import DownloadNames.Proofs.Template.Bindings
import DownloadNames.Proofs.Template.Clean
import DownloadNames.Proofs.Template.Composition
import DownloadNames.Proofs.Template.Dependence
import DownloadNames.Proofs.Template.Fallback
import DownloadNames.Proofs.Template.Grammar
import DownloadNames.Proofs.Template.Layout
import DownloadNames.Proofs.Template.Names
import DownloadNames.Proofs.Template.Placeholder
import DownloadNames.Proofs.Template.Traversal
import DownloadNames.Proofs.Text.LowerCase
import DownloadNames.Proofs.Text.Occurrence
import DownloadNames.Proofs.Text.Pieces
import DownloadNames.Proofs.Value.Entries
import DownloadNames.Proofs.Value.Merge
import DownloadNames.Proofs.Value.Nested
import DownloadNames.Settings.Basic
import DownloadNames.Settings.Check
import DownloadNames.Settings.Example
import DownloadNames.Settings.Issue
import DownloadNames.Settings.Layer
import DownloadNames.Settings.Load
import DownloadNames.Settings.Report
import DownloadNames.Settings.Source
import DownloadNames.Settings.Store
import DownloadNames.Template.Bindings
import DownloadNames.Template.Check
import DownloadNames.Template.Expand
import DownloadNames.Template.Placeholder
import DownloadNames.Template.Presets
import DownloadNames.Text.Base64
import DownloadNames.Text.Basic
import DownloadNames.Text.Blank
import DownloadNames.Text.Digit
import DownloadNames.Text.Integer
import DownloadNames.Text.LowerCase
import DownloadNames.Text.LowerCase.Table
import DownloadNames.Text.Pattern
import DownloadNames.Text.Printable
import DownloadNames.Text.Quoted
import DownloadNames.Text.Ranges
import DownloadNames.Text.Word
import DownloadNames.Value.Basic
import DownloadNames.Value.Display
import DownloadNames.Value.Merge
import DownloadNames.Yaml.Block
import DownloadNames.Yaml.Cursor
import DownloadNames.Yaml.Document
import DownloadNames.Yaml.Moment
import DownloadNames.Yaml.Node
import DownloadNames.Yaml.Number
import DownloadNames.Yaml.Plain
import DownloadNames.Yaml.Quoted
import DownloadNames.Yaml.Tag
import DownloadNames.Yaml.Token
