import SparqlExpr.Vocabulary
import SparqlExpr.Category
import SparqlExpr.Number.Decimal
import SparqlExpr.Number.Binary
import SparqlExpr.Text.CharClass
import SparqlExpr.Text.Printable
import SparqlExpr.Text.CaseTable
import SparqlExpr.Text.Quoted
import SparqlExpr.Text.Case
import SparqlExpr.Temporal.Calendar
import SparqlExpr.Temporal.Zone
import SparqlExpr.Temporal.Pattern
import SparqlExpr.Temporal.Moment
import SparqlExpr.Temporal.Duration
import SparqlExpr.Error
import SparqlExpr.Term.Numeric
import SparqlExpr.Term.Literal
import SparqlExpr.Term.Basic
import SparqlExpr.Term.Lexical
import SparqlExpr.Operator.Basic
import SparqlExpr.Operator.Registry
import SparqlExpr.Builtin.Arguments
import SparqlExpr.Builtin.Arithmetic
import SparqlExpr.Builtin.Comparison
import SparqlExpr.Builtin.Strings
import SparqlExpr.Builtin.TermFunctions
import SparqlExpr.Builtin.Cast
import SparqlExpr.Builtin.DateParts
import SparqlExpr.Builtin.Library
import SparqlExpr.Expression
import SparqlExpr.Solution
import SparqlExpr.Config
import SparqlExpr.Evaluation
import SparqlExpr.Aggregate
import SparqlExpr.Proofs.Outcome
import SparqlExpr.Proofs.Dispatch
import SparqlExpr.Proofs.WellFormed
import SparqlExpr.Proofs.Contract
import SparqlExpr.Proofs.Comparison
import SparqlExpr.Proofs.Builtins
import SparqlExpr.Proofs.Execution
import SparqlExpr.Proofs.Preservation
import SparqlExpr.Proofs.Connective
import SparqlExpr.Proofs.ControlFlow
import SparqlExpr.Proofs.Propagation
import SparqlExpr.Proofs.Cancellation
import SparqlExpr.Proofs.Membership
import SparqlExpr.Proofs.Extremum
import SparqlExpr.Proofs.Locality
import SparqlExpr.Proofs.Notation
import SparqlExpr.Proofs.DecimalText
import SparqlExpr.Proofs.Rounding
import SparqlExpr.Proofs.LexicalSpace
import SparqlExpr.Proofs.Calendar
import SparqlExpr.Proofs.ZoneSuffix
import SparqlExpr.Proofs.Converse
import SparqlExpr.Proofs.PatternReading
import SparqlExpr.Proofs.TemporalText
import SparqlExpr.Proofs.TermOrder
import SparqlExpr.Proofs.DispatchFaults
import SparqlExpr.Proofs.ConstructionChecks
import SparqlExpr.Proofs.GroupAggregates
import SparqlExpr.Proofs.DecimalRounding
import SparqlExpr.Proofs.TemporalOrder
import SparqlExpr.Proofs.DurationText
import SparqlExpr.Proofs.DecimalQuotient
import SparqlExpr.Proofs.ExactSums
import SparqlExpr.Proofs.StringCasts
