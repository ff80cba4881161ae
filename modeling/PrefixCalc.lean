import PrefixCalc.Ascending
import PrefixCalc.Command
import PrefixCalc.Completion
import PrefixCalc.Diagnostic
import PrefixCalc.Grammar
import PrefixCalc.Input
import PrefixCalc.Lexeme
import PrefixCalc.Log.Filter
import PrefixCalc.Log.Pattern
import PrefixCalc.Log.Record
import PrefixCalc.Main
import PrefixCalc.Options
import PrefixCalc.Program
import PrefixCalc.Report
import PrefixCalc.Report.Mark
import PrefixCalc.Report.Paint
import PrefixCalc.Report.Row
import PrefixCalc.Rule
import PrefixCalc.Session
import PrefixCalc.Term
import PrefixCalc.Term.Walk
import PrefixCalc.Text.Alphanumeric
import PrefixCalc.Text.Basic
import PrefixCalc.Text.ByteOffset
import PrefixCalc.Text.Grapheme
import PrefixCalc.Text.GraphemeClass
import PrefixCalc.Text.Similarity
import PrefixCalc.Text.SourceLine
import PrefixCalc.Text.Unstyled
import PrefixCalc.Text.Width
import PrefixCalc.Value
import PrefixCalc.Proofs.Blanks
import PrefixCalc.Proofs.Derivation
import PrefixCalc.Proofs.Diagnosis
import PrefixCalc.Proofs.Evaluation
import PrefixCalc.Proofs.Failure
import PrefixCalc.Proofs.Lexeme
import PrefixCalc.Proofs.Parsing
import PrefixCalc.Proofs.Reads
import PrefixCalc.Proofs.Refusal
import PrefixCalc.Proofs.RoundTrip
import PrefixCalc.Proofs.Stage
import PrefixCalc.Proofs.Walk
import PrefixCalc.Proofs.Requests
import PrefixCalc.Proofs.Wrapping
import PrefixCalc.Proofs.Answers
import PrefixCalc.Proofs.Conversation
import PrefixCalc.Proofs.ColonLine
import PrefixCalc.Proofs.Header
import PrefixCalc.Proofs.Layout
import PrefixCalc.Proofs.OneShot
import PrefixCalc.Proofs.Causes
import PrefixCalc.Proofs.Counting
import PrefixCalc.Proofs.Cuts
import PrefixCalc.Proofs.Undisturbed
import PrefixCalc.Proofs.Decoration
import PrefixCalc.Proofs.Numerals
import PrefixCalc.Proofs.Replacement
import PrefixCalc.Proofs.Regrouping
import PrefixCalc.Proofs.Offers
import PrefixCalc.Proofs.Visits
import PrefixCalc.Proofs.Division
import PrefixCalc.Proofs.Progress
import PrefixCalc.Proofs.LongestMatch
import PrefixCalc.Proofs.Hints
