import FieldCalc.Calendar.Civil
import FieldCalc.Calendar.Iso
import FieldCalc.Datum
import FieldCalc.Fault
import FieldCalc.Field.Basic
import FieldCalc.Field.Dependency
import FieldCalc.Field.Display
import FieldCalc.Field.Entry
import FieldCalc.Field.Slot
import FieldCalc.Filter.Match
import FieldCalc.Filter.Operator
import FieldCalc.Filter.Rule
import FieldCalc.Formula.Catalog
import FieldCalc.Formula.Check
import FieldCalc.Formula.Context
import FieldCalc.Formula.Engine
import FieldCalc.Formula.Eval
import FieldCalc.Formula.Expr
import FieldCalc.Formula.Lexer
import FieldCalc.Formula.Operators
import FieldCalc.Formula.Parser
import FieldCalc.Formula.References
import FieldCalc.Formula.Rollup
import FieldCalc.Json.Basic
import FieldCalc.Json.Codec
import FieldCalc.Json.Read
import FieldCalc.Log
import FieldCalc.Log.Layout
import FieldCalc.Log.Format
import FieldCalc.Number.Basic
import FieldCalc.Number.Binary
import FieldCalc.Number.Decimal
import FieldCalc.Number.Fixed
import FieldCalc.Number.Read
import FieldCalc.Number.Shortest
import FieldCalc.Schema
import FieldCalc.Service
import FieldCalc.Text.Case
import FieldCalc.Text.Class
import FieldCalc.Text.Quote
import FieldCalc.Value
import FieldCalc.Proofs.Graph.Edges
import FieldCalc.Proofs.Graph.Search
import FieldCalc.Proofs.Graph.Invariant
import FieldCalc.Proofs.Graph.Order
import FieldCalc.Proofs.Graph.Catalog
import FieldCalc.Proofs.Derive.Semantics
import FieldCalc.Proofs.Derive.State
import FieldCalc.Proofs.Derive.Run
import FieldCalc.Proofs.Derive.Steps
import FieldCalc.Proofs.Derive.Agreement
import FieldCalc.Proofs.Formula.Grammar
import FieldCalc.Proofs.Formula.Traversal
import FieldCalc.Proofs.Formula.ParseSound
import FieldCalc.Proofs.Formula.ParseComplete
import FieldCalc.Proofs.Formula.Faults
import FieldCalc.Proofs.Formula.Provenance
import FieldCalc.Proofs.Formula.Resolution
import FieldCalc.Proofs.Formula.Validation
import FieldCalc.Proofs.Formula.Escapes
import FieldCalc.Proofs.Field.Faults
import FieldCalc.Proofs.Derive.Faults
import FieldCalc.Proofs.Filter.Raises
import FieldCalc.Proofs.Graph.Breadth
import FieldCalc.Proofs.Graph.Schedule
import FieldCalc.Proofs.Value.Normal
import FieldCalc.Proofs.Number.Encoding
import FieldCalc.Proofs.Number.Rounding
import FieldCalc.Proofs.Number.ShortestDigits
import FieldCalc.Proofs.Number.StoredForm
import FieldCalc.Proofs.Field.Storage
import FieldCalc.Proofs.Number.Order
import FieldCalc.Proofs.Value.Order
import FieldCalc.Proofs.Number.DecimalSum
import FieldCalc.Proofs.Formula.Sums
import FieldCalc.Proofs.Formula.Balance
import FieldCalc.Proofs.Number.FloatReading
import FieldCalc.Proofs.Number.WholeFloats
import FieldCalc.Proofs.Value.RoundTrip
import FieldCalc.Proofs.Calendar.Days
import FieldCalc.Proofs.Formula.TextSlices
import FieldCalc.Proofs.Formula.Viability
import FieldCalc.Proofs.Formula.FirstError
import FieldCalc.Proofs.Number.Conversion
import FieldCalc.Proofs.Number.Quantize
import FieldCalc.Proofs.Formula.Round
import FieldCalc.Proofs.Graph.SaveCheck
import FieldCalc.Proofs.Calendar.IsoText
import FieldCalc.Proofs.Calendar.WholeSeconds
import FieldCalc.Proofs.Number.Nearest
import FieldCalc.Proofs.Number.Arithmetic
import FieldCalc.Proofs.Formula.Search
import FieldCalc.Proofs.Formula.DateArithmetic
import FieldCalc.Proofs.Calendar.Fractions
import FieldCalc.Proofs.Calendar.Instants
import FieldCalc.Proofs.Formula.DateParts
import FieldCalc.Proofs.Formula.Remainder
import FieldCalc.Proofs.Formula.SourceOrder
