import DynLisp.Number.Basic
import DynLisp.Text.Runs
import DynLisp.Text.Class
import DynLisp.Number.Decimal
import DynLisp.Number.Numeral
import DynLisp.Number.Sum
import DynLisp.Number.Power
import DynLisp.Text.Escape
import DynLisp.Text.Quoted
import DynLisp.Text.Encoding.Basic
import DynLisp.Token.Basic
import DynLisp.Token.Lexer
import DynLisp.Arity
import DynLisp.Descriptor
import DynLisp.Association
import DynLisp.HostObject
import DynLisp.Value.Basic
import DynLisp.Value.Equality
import DynLisp.Value.Printer
import DynLisp.Fault
import DynLisp.Form
import DynLisp.Value.Projection
import DynLisp.Exchange
import DynLisp.Value.Distinct
import DynLisp.Scope
import DynLisp.Stream
import DynLisp.Machine
import DynLisp.Library.Numeric
import DynLisp.Library.Sequence
import DynLisp.Library.Stream
import DynLisp.Library.Control
import DynLisp.Evaluator
import DynLisp.Library.Globals
import DynLisp.Settings
import DynLisp.Session
import DynLisp.Proofs.Run
import DynLisp.Proofs.ScopeDiscipline
import DynLisp.Proofs.Characters
import DynLisp.Proofs.NumberText
import DynLisp.Proofs.Lexeme
import DynLisp.Proofs.Grammar
import DynLisp.Proofs.ViablePrefix
import DynLisp.Proofs.Numeral
import DynLisp.Proofs.RoundTrip
import DynLisp.Proofs.Guards
import DynLisp.Proofs.LibraryOutcome
import DynLisp.Proofs.Coupling
import DynLisp.Proofs.Visibility
import DynLisp.Proofs.Confinement
import DynLisp.Proofs.Atomicity
import DynLisp.Proofs.FaultFamily
import DynLisp.Proofs.LineBreak
import DynLisp.Proofs.Registry
import DynLisp.Proofs.Composition
import DynLisp.Proofs.Rounding
import DynLisp.Proofs.ReaderFaults
import DynLisp.Proofs.Reprint
import DynLisp.Proofs.Calls
import DynLisp.Proofs.Frames
import DynLisp.Proofs.LetBinding
import DynLisp.Proofs.Equality
import DynLisp.Proofs.LibrarySafety
import DynLisp.Proofs.Continuation
import DynLisp.Proofs.LambdaText
import DynLisp.Proofs.Entry
import DynLisp.Proofs.Projection
import DynLisp.Proofs.Subsumption
import DynLisp.Proofs.Look
import DynLisp.Proofs.Keys
import DynLisp.Proofs.Pieces
import DynLisp.Proofs.Spacing
import DynLisp.Proofs.Definitions
import DynLisp.Proofs.Canonical
import DynLisp.Proofs.Writes
import DynLisp.Proofs.Settled
import DynLisp.Proofs.Substring
import DynLisp.Proofs.Positions
import DynLisp.Proofs.InputLines
