import PipeArrow.Cursor
import PipeArrow.Main
import PipeArrow.Proofs.Lexing.FirstRule
import PipeArrow.Proofs.Lexing.Boundary
import PipeArrow.Proofs.Lexing.Longest
import PipeArrow.Proofs.Lexing.LastRule
import PipeArrow.Proofs.Parsing.BlankLine
import PipeArrow.Proofs.Parsing.RoundTrip
import PipeArrow.Proofs.Parsing.Refusal
import PipeArrow.Proofs.Parsing.Balance
import PipeArrow.Proofs.Parsing.Indexed
import PipeArrow.Proofs.Parsing.Items
import PipeArrow.Proofs.Parsing.Stages
import PipeArrow.Proofs.Lexing.Builtin
import PipeArrow.Proofs.Parsing.Callees
import PipeArrow.Proofs.Parsing.Depth
import PipeArrow.Proofs.Parsing.Texts
import PipeArrow.Proofs.Program
import PipeArrow.Proofs.Report
import PipeArrow.Proofs.RuleSet.Document
import PipeArrow.Proofs.RuleSet.History
import PipeArrow.Proofs.RuleSet.Verdict
import PipeArrow.Proofs.Lexing.Bounds
import PipeArrow.Proofs.Location
import PipeArrow.Proofs.Parsing.Unclosed
import PipeArrow.Proofs.Parsing.Culprit
import PipeArrow.Proofs.Parsing.Pipeline
import PipeArrow.Proofs.Parsing.Body
import PipeArrow.Proofs.Parsing.Enclosed
import PipeArrow.Proofs.Parsing.Malformed
import PipeArrow.Proofs.Parsing.Calls
import PipeArrow.Proofs.Parsing.Height
import PipeArrow.Proofs.Parsing.Uncommented
import PipeArrow.Proofs.Lexing.Beginning
import PipeArrow.Proofs.Lexing.Passage
import PipeArrow.Proofs.Lexing.Separator
import PipeArrow.Proofs.Lexing.Lines
import PipeArrow.Proofs.Lexing.Spaces
import PipeArrow.Proofs.Printed
import PipeArrow.Proofs.Warnings
import PipeArrow.Proofs.PrintedTokens
import PipeArrow.Proofs.Parsing.Shift
import PipeArrow.Proofs.Lexing.Cursor
import PipeArrow.Proofs.Lexing.Restart
