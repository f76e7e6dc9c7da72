import FunctionCalculator.Binary64.Arithmetic
import FunctionCalculator.Binary64.Basic
import FunctionCalculator.Binary64.Decimal
import FunctionCalculator.Binary64.Dyadic
import FunctionCalculator.Binary64.Enclosed
import FunctionCalculator.Binary64.Notation
import FunctionCalculator.Binary64.Power
import FunctionCalculator.Binary64.Root
import FunctionCalculator.Builtin.Catalogue
import FunctionCalculator.Builtin.Meaning
import FunctionCalculator.Call
import FunctionCalculator.Code.Listing
import FunctionCalculator.Code.Template
import FunctionCalculator.Code.Term
import FunctionCalculator.CommandLine.Answer
import FunctionCalculator.CommandLine.Arguments
import FunctionCalculator.Declaration
import FunctionCalculator.Enclosure.Basic
import FunctionCalculator.Enclosure.Elementary
import FunctionCalculator.Error
import FunctionCalculator.Evaluation
import FunctionCalculator.Expression.Display
import FunctionCalculator.Expression.Parser
import FunctionCalculator.Expression.Tree
import FunctionCalculator.Integer.Arithmetic
import FunctionCalculator.Integer.Decimal
import FunctionCalculator.Kind
import FunctionCalculator.Main
import FunctionCalculator.Operation
import FunctionCalculator.Registry
import FunctionCalculator.SymbolTable
import FunctionCalculator.Text.Basic
import FunctionCalculator.Text.Case
import FunctionCalculator.Text.CaseTable
import FunctionCalculator.Text.Quoted
import FunctionCalculator.Text.UnprintableTable
import FunctionCalculator.Token
import FunctionCalculator.Value
import FunctionCalculator.Proofs.Binary64.Half
import FunctionCalculator.Proofs.Binary64.Nearest
import FunctionCalculator.Proofs.Binary64.Negation
import FunctionCalculator.Proofs.Binary64.Notation
import FunctionCalculator.Proofs.Binary64.OddPower
import FunctionCalculator.Proofs.Binary64.One
import FunctionCalculator.Proofs.Binary64.Overflow
import FunctionCalculator.Proofs.Binary64.Rank
import FunctionCalculator.Proofs.Binary64.Root
import FunctionCalculator.Proofs.Binary64.Square
import FunctionCalculator.Proofs.Builtin.Lookup
import FunctionCalculator.Proofs.Call.Parentheses
import FunctionCalculator.Proofs.Call.Printing
import FunctionCalculator.Proofs.Code.Agreement
import FunctionCalculator.Proofs.Code.Calls
import FunctionCalculator.Proofs.Code.Decoding
import FunctionCalculator.Proofs.Code.Execution
import FunctionCalculator.Proofs.Code.Hygiene
import FunctionCalculator.Proofs.Code.Listing
import FunctionCalculator.Proofs.Code.Missing
import FunctionCalculator.Proofs.Code.Naming
import FunctionCalculator.Proofs.Code.Outcome
import FunctionCalculator.Proofs.Code.Pattern
import FunctionCalculator.Proofs.Code.Term
import FunctionCalculator.Proofs.CommandLine.Answer
import FunctionCalculator.Proofs.Declaration.Agreement
import FunctionCalculator.Proofs.Declaration.Grammar
import FunctionCalculator.Proofs.Enclosure.Bounds
import FunctionCalculator.Proofs.Evaluation.Arguments
import FunctionCalculator.Proofs.Evaluation.DigitSum
import FunctionCalculator.Proofs.Evaluation.Divisibility
import FunctionCalculator.Proofs.Evaluation.Outcome
import FunctionCalculator.Proofs.Evaluation.Palindrome
import FunctionCalculator.Proofs.Evaluation.Saturation
import FunctionCalculator.Proofs.Evaluation.Shown
import FunctionCalculator.Proofs.Evaluation.Sign
import FunctionCalculator.Proofs.Evaluation.Square
import FunctionCalculator.Proofs.Evaluation.Surplus
import FunctionCalculator.Proofs.Expression.Canonical
import FunctionCalculator.Proofs.Expression.Drawing
import FunctionCalculator.Proofs.Expression.Operands
import FunctionCalculator.Proofs.Expression.Reading
import FunctionCalculator.Proofs.Expression.Reference
import FunctionCalculator.Proofs.Expression.Root
import FunctionCalculator.Proofs.Integer.Digits
import FunctionCalculator.Proofs.Integer.Division
import FunctionCalculator.Proofs.Integer.Euclid
import FunctionCalculator.Proofs.Integer.Expansion
import FunctionCalculator.Proofs.Integer.Numeral
import FunctionCalculator.Proofs.Integer.Prime
import FunctionCalculator.Proofs.Integer.Reversal
import FunctionCalculator.Proofs.Integer.Root
import FunctionCalculator.Proofs.Integer.Square
import FunctionCalculator.Proofs.Message
import FunctionCalculator.Proofs.Operation.Ending
import FunctionCalculator.Proofs.Operation.Line
import FunctionCalculator.Proofs.Operation.Outcome
import FunctionCalculator.Proofs.Operation.Remainder
import FunctionCalculator.Proofs.Registry.Building
import FunctionCalculator.Proofs.Registry.Table
import FunctionCalculator.Proofs.Text.Case
import FunctionCalculator.Proofs.Text.Ending
import FunctionCalculator.Proofs.Text.Fragments
import FunctionCalculator.Proofs.Text.Lines
import FunctionCalculator.Proofs.Text.Pieces
import FunctionCalculator.Proofs.Text.Trim
import FunctionCalculator.Proofs.Token.Splitting
import FunctionCalculator.Proofs.Token.Trace
import FunctionCalculator.Proofs.Token.Words
import FunctionCalculator.Proofs.Token.Writing
