import Checkup.Command
import Checkup.Config.Properties
import Checkup.Config.Settings
import Checkup.Decimal.Layout
import Checkup.Decimal.Shortest
import Checkup.Failure
import Checkup.Files
import Checkup.Grammar.Automaton
import Checkup.Grammar.Item
import Checkup.Grammar.Merging
import Checkup.Grammar.Production
import Checkup.Grammar.Rule
import Checkup.Grammar.Table
import Checkup.Grammar.Vocabulary
import Checkup.Json.Fault
import Checkup.Json.Read
import Checkup.Json.Scan
import Checkup.Json.Write
import Checkup.Lexing.Dfa
import Checkup.Lexing.Nfa
import Checkup.Lexing.Overlap
import Checkup.Lexing.Pattern
import Checkup.Lint.Runner
import Checkup.Lint.Tool
import Checkup.Main
import Checkup.Parsing.Parse
import Checkup.Parsing.Shown
import Checkup.Parsing.Stack
import Checkup.Parsing.Subtree
import Checkup.Parsing.Token
import Checkup.Pipeline
import Checkup.Program.Grammar
import Checkup.Program.Identifier
import Checkup.Program.Layout
import Checkup.Program.Source
import Checkup.Proofs.Command.Outcome
import Checkup.Proofs.Config.Entries
import Checkup.Proofs.Config.Layout
import Checkup.Proofs.Indentation.Consistent
import Checkup.Proofs.Indentation.Indent
import Checkup.Proofs.Indentation.Lexemes
import Checkup.Proofs.Indentation.Openers
import Checkup.Proofs.Indentation.Replay
import Checkup.Proofs.Json.Decode
import Checkup.Proofs.Json.Grammar
import Checkup.Proofs.Json.Skip
import Checkup.Proofs.Json.Tokens
import Checkup.Proofs.Json.Written
import Checkup.Proofs.Pipeline.Limit
import Checkup.Proofs.Review.FirstChoice
import Checkup.Proofs.Steps
import Checkup.Proofs.Syntax.AllClear
import Checkup.Proofs.Syntax.Earliest
import Checkup.Proofs.Syntax.Extras
import Checkup.Proofs.Syntax.FirstError
import Checkup.Proofs.Syntax.Leaves
import Checkup.Proofs.Syntax.Offset
import Checkup.Proofs.Syntax.Place
import Checkup.Proofs.Syntax.Preorder
import Checkup.Proofs.Syntax.Targets
import Checkup.Proofs.Syntax.Walk
import Checkup.Proofs.Text.Lines
import Checkup.Proofs.Text.Trim
import Checkup.Proofs.Text.Utf8
import Checkup.Report
import Checkup.Review.Client
import Checkup.Review.Completion
import Checkup.Review.Conversation
import Checkup.Review.Prompt
import Checkup.Syntax.Check
import Checkup.Syntax.Issue
import Checkup.Syntax.Node
import Checkup.Syntax.Rule
import Checkup.Syntax.Rule.Arguments
import Checkup.Syntax.Rule.Block
import Checkup.Syntax.Rule.DeleteTarget
import Checkup.Syntax.Rule.Indentation
import Checkup.Syntax.Rule.Integer
import Checkup.Text.Blank
import Checkup.Text.CharSet
import Checkup.Text.Graphic
import Checkup.Text.Quoted
import Checkup.Text.Utf8
import Checkup.Web.Base64
import Checkup.Web.Escape
import Checkup.Web.Exchange
import Checkup.Web.Host
import Checkup.Web.Names
import Checkup.Web.Punycode
import Checkup.Web.Uri
import Checkup.Web.Url
import Checkup.Proofs.Review.ReadBack
import Checkup.Proofs.Decimal.Numeral
import Checkup.Proofs.Json.Printable
import Checkup.Proofs.Review.Carried
import Checkup.Proofs.Web.Uri
import Checkup.Proofs.Review.Calls
import Checkup.Proofs.Pipeline.Secret
import Checkup.Proofs.Config.Line
import Checkup.Proofs.Config.Joining
import Checkup.Proofs.Config.Settings
import Checkup.Proofs.Lint.AllOrNothing
import Checkup.Proofs.Syntax.CallOrder
import Checkup.Proofs.Syntax.Grouping
import Checkup.Proofs.Syntax.MissingBody
import Checkup.Proofs.Syntax.Position
import Checkup.Proofs.Syntax.Verdict
import Checkup.Proofs.Review.Faults
import Checkup.Proofs.Text.Reading
import Checkup.Proofs.Text.CharSet
import Checkup.Proofs.Lexing.Language
import Checkup.Proofs.Program.Integers
import Checkup.Proofs.Syntax.IntegerValue
