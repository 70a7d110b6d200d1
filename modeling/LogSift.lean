import LogSift.Calendar
import LogSift.CommandLine.Arguments
import LogSift.CommandLine.Help
import LogSift.CommandLine.Report
import LogSift.CommandLine.Run
import LogSift.Directory
import LogSift.Json.Printer
import LogSift.Json.Reader
import LogSift.Main
import LogSift.Matcher.Build
import LogSift.Matcher.Description
import LogSift.Matcher.Error
import LogSift.Matcher.Extract
import LogSift.Matcher.Run
import LogSift.Matcher.Validate
import LogSift.MatcherFile.Document
import LogSift.MatcherFile.Load
import LogSift.Number.Double
import LogSift.Number.Integer
import LogSift.Number.Shortest
import LogSift.Outcome
import LogSift.Path
import LogSift.Proofs.CommandLine.Delivery
import LogSift.Proofs.CommandLine.Input
import LogSift.Proofs.CommandLine.JsonReport
import LogSift.Proofs.CommandLine.Report
import LogSift.Proofs.CommandLine.Run
import LogSift.Proofs.CommandLine.Summary
import LogSift.Proofs.Directory
import LogSift.Proofs.Entries
import LogSift.Proofs.JsonRoundTrip
import LogSift.Proofs.JsonValue
import LogSift.Proofs.Matcher.Blank
import LogSift.Proofs.Matcher.Build
import LogSift.Proofs.Matcher.Cut
import LogSift.Proofs.Matcher.Extract
import LogSift.Proofs.Matcher.Faults
import LogSift.Proofs.Matcher.Fields
import LogSift.Proofs.Matcher.Keys
import LogSift.Proofs.Matcher.Limits
import LogSift.Proofs.Matcher.Plan
import LogSift.Proofs.Matcher.Provenance
import LogSift.Proofs.Matcher.Renaming
import LogSift.Proofs.Matcher.Resolution
import LogSift.Proofs.Matcher.Roles
import LogSift.Proofs.Matcher.RoundTrip
import LogSift.Proofs.Matcher.Scan
import LogSift.Proofs.Matcher.Severity
import LogSift.Proofs.Matcher.Sifter
import LogSift.Proofs.Matcher.Stages
import LogSift.Proofs.Matcher.Trials
import LogSift.Proofs.MatcherFile.Document
import LogSift.Proofs.MatcherFile.Keys
import LogSift.Proofs.MatcherFile.Load
import LogSift.Proofs.MatcherFile.Selection
import LogSift.Proofs.Regex.MatchEnd
import LogSift.Proofs.Text.Ansi.Leftover
import LogSift.Proofs.Text.Ansi.Scan
import LogSift.Proofs.Text.Ansi.Sequence
import LogSift.Proofs.Text.Truncate
import LogSift.Proofs.Text.Utf8
import LogSift.Proofs.YamlValue
import LogSift.Regex.Basic
import LogSift.Regex.CharTest
import LogSift.Regex.Compile
import LogSift.Regex.Cursor
import LogSift.Regex.Error
import LogSift.Regex.Escape
import LogSift.Regex.Node
import LogSift.Regex.Opening
import LogSift.Regex.Parser
import LogSift.Regex.Remove
import LogSift.Regex.Repeat
import LogSift.Regex.Syntax
import LogSift.Regex.Token
import LogSift.Regex.Trail
import LogSift.Text.Ansi
import LogSift.Text.Base64
import LogSift.Text.Lines
import LogSift.Text.Position
import LogSift.Text.Quoted
import LogSift.Text.Trim
import LogSift.Text.Truncate
import LogSift.Text.Utf8
import LogSift.Unicode.Case
import LogSift.Unicode.Digit
import LogSift.Unicode.Fold
import LogSift.Unicode.Identifier
import LogSift.Unicode.Letter
import LogSift.Unicode.Lower
import LogSift.Unicode.Name
import LogSift.Unicode.Name.Alias
import LogSift.Unicode.Name.Ancient
import LogSift.Unicode.Name.Kana
import LogSift.Unicode.Name.Run
import LogSift.Unicode.Name.Scripts
import LogSift.Unicode.Name.Signs
import LogSift.Unicode.Name.Symbols
import LogSift.Unicode.Printable
import LogSift.Unicode.Ranges
import LogSift.Unicode.Space
import LogSift.Value.Basic
import LogSift.Value.Show
import LogSift.Yaml.Basic
import LogSift.Yaml.Error
import LogSift.Yaml.Lexer
import LogSift.Yaml.Node
import LogSift.Yaml.Property
import LogSift.Yaml.Scalar.Block
import LogSift.Yaml.Scalar.Plain
import LogSift.Yaml.Scalar.Quoted
import LogSift.Yaml.Scalar.Value
import LogSift.Yaml.Tag
import LogSift.Yaml.Text
import LogSift.Yaml.Token
import LogSift.Yaml.Value
