import Reckon.Main
import Reckon.Proofs.Decimal.Value
import Reckon.Proofs.Decimal.Order
import Reckon.Proofs.Decimal.Equality
import Reckon.Proofs.Decimal.Rounding
import Reckon.Proofs.Decimal.Quotient
import Reckon.Proofs.Decimal.Power
import Reckon.Proofs.Decimal.Zeros
import Reckon.Proofs.Decimal.Extent
import Reckon.Proofs.Decimal.Binary64
import Reckon.Proofs.Decimal.Neighbours
import Reckon.Proofs.Decimal.CorrectRounding
import Reckon.Proofs.Decimal.WholeNumbers
import Reckon.Proofs.Context.Extent
import Reckon.Proofs.Context.CorrectRounding
import Reckon.Proofs.Context.IntegerPower
import Reckon.Proofs.Context.NaturalScale
import Reckon.Proofs.Operator.Numbers
import Reckon.Proofs.Operator.Extent
import Reckon.Proofs.Grammar.Reader
import Reckon.Proofs.Grammar.Recognition
import Reckon.Proofs.Grammar.Nesting
import Reckon.Proofs.Grammar.Earliest
import Reckon.Proofs.Grammar.Positions
import Reckon.Proofs.Grammar.Messages
import Reckon.Proofs.Scanning.NumeralGrammar
import Reckon.Proofs.Scanning.Numerals
import Reckon.Proofs.Scanning.Lexemes
import Reckon.Proofs.Scanning.Tokens
import Reckon.Proofs.Scanning.Coverage
import Reckon.Proofs.Scanning.NumeralMeaning
import Reckon.Proofs.Scanning.Spacing
import Reckon.Proofs.Scanning.Faults
import Reckon.Proofs.Scanning.Joined
import Reckon.Proofs.Grammar.Printed
import Reckon.Proofs.Evaluation.Budget
import Reckon.Proofs.Evaluation.Reported
import Reckon.Proofs.Evaluation.Genuine
import Reckon.Proofs.Evaluation.Recursive
import Reckon.Proofs.Evaluation.Unguarded
import Reckon.Proofs.Evaluation.Circular
import Reckon.Proofs.Evaluation.Cycles
import Reckon.Proofs.Evaluation.Depth
import Reckon.Proofs.Evaluation.Inlining
import Reckon.Proofs.Evaluation.Agreement
import Reckon.Proofs.Evaluation.Locality
import Reckon.Proofs.Text.CaseTable
import Reckon.Proofs.Text.CaseVariants
import Reckon.Proofs.Text.LowerTexts
import Reckon.Proofs.Text.OneLine
import Reckon.Proofs.Evaluation.CaseVariants
import Reckon.Proofs.Evaluation.Keys
import Reckon.Proofs.Evaluation.Stateless
import Reckon.Proofs.Evaluation.Performed
import Reckon.Proofs.Standard.Numbers
import Reckon.Proofs.Standard.Extent
import Reckon.Proofs.Standard.Integral
import Reckon.Proofs.Standard.Aggregates
import Reckon.Proofs.Evaluation.Extent
import Reckon.Proofs.Evaluation.Exact
import Reckon.Proofs.Evaluation.Contexts
import Reckon.Proofs.Evaluation.Alike
import Reckon.Proofs.Session.Slots
import Reckon.Proofs.Session.History
import Reckon.Proofs.Session.Reread
import Reckon.Proofs.Session.Spacing
import Reckon.Proofs.Session.Messages
import Reckon.Proofs.Session.Extent
import Reckon.Proofs.CommandLine.Piped
import Reckon.Proofs.Standard.Average
import Reckon.Proofs.Session.Canonical
import Reckon.Proofs.Scanning.Truncated
import Reckon.Proofs.Scanning.Calls
import Reckon.Proofs.Grammar.Calls
