import DynLisp.Library.Numeric

/-!
The core forms, and the functions that call functions. They are given the evaluator they run under.
Forms that decide themselves what to evaluate receive their arguments as source.
-/

namespace DynLisp

/-- What functions ask of the evaluator. -/
structure Caller where
  eval : Value → Run Value
  call : Value → List Value → Run Value

/-- What the host adds to the language: its functions, and how deep values may be nested that it
prints, and evaluations inside one another. -/
structure Host where
  function : HostFunction → Caller → List Value → Run Value
  nesting : Nat
  depth : Nat

/-- A host without functions of its own. -/
def Host.bare (nesting depth : Nat) : Host := ⟨fun _ _ _ => Run.fail (.host .outOfRange), nesting, depth⟩

structure Evaluator extends Caller where
  host : Host

/-- Evaluates forms in order; the last one gives the result, and nil stands for none. -/
def Evaluator.evalBody (ev : Evaluator) (forms : List Value) : Run Value :=
  forms.foldlM (fun _ form => ev.eval form) .nil

namespace Library

def wrongCount {α : Type} (expected got : Nat) : Except Fault α :=
  .error (.lisp (.wrongCount (.fixed expected) got))

/-- `(define name form)` or `(define (name params...) body...)`. -/
def define (ev : Evaluator) : List Value → Run Value
  | [.symbol name, form] => do
    let v ← ev.eval form
    Run.define name v
    return .nil
  | .symbol _ :: rest => Run.ofExcept (wrongCount 2 (rest.length + 1))
  | .list [] :: _ => Run.ofExcept ((Value.list []).mismatch [.symbol])
  | .list (name :: params) :: body => do
    let name ← Run.ofExcept name.asSymbol
    let params ← Run.ofExcept (params.mapM Value.asSymbol)
    Run.define name (.lambda params body)
    return .nil
  | target :: _ => Run.ofExcept (target.mismatch [.symbol, .list])
  | [] => Run.ofExcept missing

/-- `(if condition form [form])`; only the branch taken is evaluated. -/
def conditional (ev : Evaluator) : List Value → Run Value
  | condition :: branches => do
    let v ← ev.eval condition
    match ← Run.ofExcept v.asBool, branches with
    | true, form :: _ | false, _ :: form :: _ => ev.eval form
    | true, [] => Run.ofExcept missing
    | false, _ => return .nil
  | [] => Run.ofExcept missing

def bindOne (ev : Evaluator) (binding : Value) : Run Unit := do
  match ← Run.ofExcept binding.asList with
  | [name, form] => do
    let name ← Run.ofExcept name.asSymbol
    let v ← ev.eval form
    Run.onStack (·.bindLocal name v)
  | pair => Run.ofExcept (wrongCount 2 pair.length)

/-- `(let ((name form) ...) body...)`; later bindings see earlier ones. -/
def letIn (ev : Evaluator) : List Value → Run Value
  | bindings :: body => do
    let items ← Run.ofExcept bindings.asList
    items.forM (bindOne ev)
    ev.evalBody body
  | [] => Run.ofExcept noFirst

/-- `(lambda (params...) body...)`. -/
def lambdaOf : List Value → Except Fault Value
  | params :: body => do
    let params ← (← params.asList).mapM Value.asSymbol
    return .lambda params body
  | [] => noFirst

def quoteOf : List Value → Except Fault Value
  | form :: _ => .ok form
  | [] => missing

/-- The argument, a value already, is evaluated once more. -/
def evaluate (ev : Evaluator) : List Value → Run Value
  | v :: _ => ev.eval v
  | [] => Run.ofExcept missing

def sequence (args : List Value) : Value := args.getLast?.getD .nil

def map (ev : Evaluator) : List Value → Run Value
  | [f, vs] => do
    let items ← Run.ofExcept vs.asList
    return .list (← items.mapM fun v => ev.call f [v])
  | args => Run.ofExcept (noPair args.length)

def keep (ev : Evaluator) (f : Value) : List Value → Run (List Value)
  | [] => return []
  | v :: vs => do
    let kept ← Run.ofExcept (← ev.call f [v]).asBool
    let rest ← keep ev f vs
    return if kept then v :: rest else rest

def filter (ev : Evaluator) : List Value → Run Value
  | [f, vs] => do
    let items ← Run.ofExcept vs.asList
    return .list (← keep ev f items)
  | args => Run.ofExcept (noPair args.length)

def apply (ev : Evaluator) : List Value → Run Value
  | [f, vs] => do
    let items ← Run.ofExcept vs.asListOrNil
    ev.call f items
  | args => Run.ofExcept (noPair args.length)

end Library

end DynLisp
