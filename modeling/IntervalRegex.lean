import IntervalRegex.Address.Basic
import IntervalRegex.Address.Cursor
import IntervalRegex.Address.Range
import IntervalRegex.Command.Arguments
import IntervalRegex.Command.Compile
import IntervalRegex.Command.Failure
import IntervalRegex.Command.Program
import IntervalRegex.Console.Event
import IntervalRegex.Console.Filter
import IntervalRegex.Console.Message
import IntervalRegex.Console.Styled
import IntervalRegex.Explorer
import IntervalRegex.Fragment
import IntervalRegex.Main
import IntervalRegex.Matcher
import IntervalRegex.NumberRange
import IntervalRegex.PatternError
import IntervalRegex.Proofs.Address.Block
import IntervalRegex.Proofs.Address.Cursor
import IntervalRegex.Proofs.Arithmetic.Address
import IntervalRegex.Proofs.Arithmetic.Limits
import IntervalRegex.Proofs.Arithmetic.NumberRange
import IntervalRegex.Proofs.Arithmetic.Token
import IntervalRegex.Proofs.Command.Arguments
import IntervalRegex.Proofs.Command.Output
import IntervalRegex.Proofs.Command.Quiet
import IntervalRegex.Proofs.Command.Shown
import IntervalRegex.Proofs.Command.TestedInputs
import IntervalRegex.Proofs.Command.Verdict
import IntervalRegex.Proofs.Console.Filter
import IntervalRegex.Proofs.Explorer.Agreement
import IntervalRegex.Proofs.Explorer.Bounds
import IntervalRegex.Proofs.Explorer.Input
import IntervalRegex.Proofs.Explorer.Line
import IntervalRegex.Proofs.Explorer.Request
import IntervalRegex.Proofs.Explorer.Session
import IntervalRegex.Proofs.Fragment.Ascii
import IntervalRegex.Proofs.Fragment.Dialect
import IntervalRegex.Proofs.Fragment.Language
import IntervalRegex.Proofs.Fragment.Reading
import IntervalRegex.Proofs.Fragment.Tiling
import IntervalRegex.Proofs.Fragment.Unambiguous
import IntervalRegex.Proofs.Generated
import IntervalRegex.Proofs.Generated.Dialects
import IntervalRegex.Proofs.Matcher
import IntervalRegex.Proofs.Matcher.Refusal
import IntervalRegex.Proofs.NumberRange
import IntervalRegex.Proofs.NumberRange.Choice
import IntervalRegex.Proofs.NumberRange.FixedWidth
import IntervalRegex.Proofs.NumberRange.Single
import IntervalRegex.Proofs.NumberRange.Size
import IntervalRegex.Proofs.NumberRange.Unambiguous
import IntervalRegex.Proofs.Regex.Language
import IntervalRegex.Proofs.Regex.Lexeme
import IntervalRegex.Proofs.Regex.Locality
import IntervalRegex.Proofs.Text.Blank
import IntervalRegex.Proofs.Text.Decimal
import IntervalRegex.Proofs.Token.Addresses
import IntervalRegex.Proofs.Token.Block
import IntervalRegex.Proofs.Token.Grammar
import IntervalRegex.Proofs.Token.LastOctet
import IntervalRegex.Proofs.Token.Network
import IntervalRegex.Proofs.Token.Octets
import IntervalRegex.Proofs.Token.Range
import IntervalRegex.Proofs.Token.Unambiguous
import IntervalRegex.Proofs.TokenList
import IntervalRegex.Proofs.TokenList.Refusal
import IntervalRegex.Regex.Basic
import IntervalRegex.Regex.CharSet
import IntervalRegex.Regex.Escape
import IntervalRegex.Regex.Fault
import IntervalRegex.Regex.Lexeme
import IntervalRegex.Regex.Reader
import IntervalRegex.Regex.Search
import IntervalRegex.Text.Blank
import IntervalRegex.Text.CodePoints
import IntervalRegex.Text.Columns
import IntervalRegex.Text.Decimal
import IntervalRegex.Text.Emoji
import IntervalRegex.Text.Letter
import IntervalRegex.Text.Printable
import IntervalRegex.Text.Quoted
import IntervalRegex.Text.Uppercase
import IntervalRegex.Text.Width
import IntervalRegex.Token.Basic
import IntervalRegex.Token.Intervals
import IntervalRegex.Token.List
import IntervalRegex.Token.Pattern
import IntervalRegex.Token.Reader
