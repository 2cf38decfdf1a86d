import DynLisp.Scope
import DynLisp.Stream
import DynLisp.Value.Projection

/-!
What evaluation acts on: the scope stack, the host's two streams, a log, and a supply of marks for
new NaNs. A `Run` reads and changes a machine and gives a value or fails; after a failure the
machine is as the failure left it.
-/

namespace DynLisp

inductive LogEvent where
  | define (name : String) (depth : Nat)
  | setGlobal (name : String)
  | formFailed (message : String)
  deriving DecidableEq, Repr

namespace LogEvent

def source : LogEvent → String
  | define _ _ => "minilisp.evaluation.evaluator"
  | setGlobal _ | formFailed _ => "minilisp.interpreter"

def message : LogEvent → String
  | define name depth => "define " ++ name ++ " at depth " ++ toString depth
  | setGlobal name => "set_global " ++ name
  | formFailed message => "form failed: " ++ message

end LogEvent

structure Machine where
  stack : ScopeStack
  input : InputStream
  output : OutputStream
  log : List LogEvent
  nextMark : Nat

abbrev Run := ExceptT Fault (StateM Machine)

namespace Run

/-- What a run gives from a machine, and the machine after it. -/
def exec {α : Type} (r : Run α) (m : Machine) : Except Fault α × Machine := r.run.run m

def fail {α : Type} (fault : Fault) : Run α := throw fault

def ofExcept {α : Type} (result : Except Fault α) : Run α := ExceptT.mk (pure result)

def onStack (f : ScopeStack → ScopeStack) : Run Unit := modify fun m => { m with stack := f m.stack }

/-- Runs in a scope of its own, which is left however the run ends. -/
def inScope {α : Type} (body : Run α) : Run α := ExceptT.mk fun m =>
  let (result, m) := body.exec { m with stack := m.stack.enter }
  match m.stack.leave? with
  | some stack => (result, { m with stack })
  | none => (.error (.host .globalScope), m)

def record (event : LogEvent) : Run Unit := modify fun m => { m with log := m.log ++ [event] }

def lookup (name : String) : Run Value := do
  match (← get).stack.lookup? name with
  | some v => return v
  | none => fail (.lisp (.undeclared name))

def define (name : String) (value : Value) : Run Unit := do
  record (.define name ((← get).stack.depth - 2))
  onStack (·.bindAbove name value)

/-- The number as a value; a NaN is a new one. -/
def ofNumber (x : Number) : Run Value := do
  if x.isNaN then
    let mark ← modifyGet fun m => (m.nextMark, { m with nextMark := m.nextMark + 1 })
    return .number (.nan mark)
  else return .number x

/-- The answer of a stream; its failure is reported as the library reports it. -/
def report {α : Type} (answer : Except StreamFault α) : Run α :=
  ofExcept (answer.mapError StreamFault.fault)

def request (r : OutputRequest) : Run Unit := do
  report (← modifyGet fun m =>
    let (answer, output) := m.output.answer r
    (answer, { m with output }))

def write (text : String) : Run Unit := request (.write text)

def flush : Run Unit := request .flush

def readLine : Run (List Char) := do
  report (← modifyGet fun m =>
    let (answer, input) := m.input.readLine
    (answer, { m with input }))

end Run

end DynLisp
