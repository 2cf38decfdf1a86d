import DynLisp.Library.Control
import DynLisp.Library.Sequence
import DynLisp.Library.Stream

/-!
Evaluation. Symbols are looked up, quotes give their payload, lists are calls, all else stands for
itself. A call enters a scope, evaluates its head there, and leaves the scope when it ends, also by a
fault. A lambda captures nothing: its body runs in the scope of the call, above the scopes of the
caller.

`Evaluator.atDepth host n` evaluates with at most `n` evaluations inside one another, and faults
beyond.
-/

namespace DynLisp

open Library in
def Evaluator.perform (ev : Evaluator) (args : List Value) : Primitive → Run Value
  | .define => define ev args
  | .conditional => conditional ev args
  | .letIn => letIn ev args
  | .lambdaOf => Run.ofExcept (lambdaOf args)
  | .quoteOf => Run.ofExcept (quoteOf args)
  | .evaluate => evaluate ev args
  | .sequence => return sequence args
  | .add => numeric add args
  | .subtract => numeric subtract args
  | .multiply => numeric (fun xs => .ok (multiply xs)) args
  | .divide => numeric divide args
  | .power => numeric power args
  | .modulo => numeric modulo args
  | .equal => Run.ofExcept (equal args)
  | .notEqual => Run.ofExcept (notEqual args)
  | .less => Run.ofExcept (compared Number.lt args)
  | .lessEqual => Run.ofExcept (compared Number.le args)
  | .greater => Run.ofExcept (compared (fun x y => y.lt x) args)
  | .greaterEqual => Run.ofExcept (compared (fun x y => y.le x) args)
  | .conjunction => Run.ofExcept (conjunction args)
  | .disjunction => Run.ofExcept (disjunction args)
  | .negation => Run.ofExcept (negation args)
  | .listOf => return .list args
  | .cons => Run.ofExcept (cons args)
  | .head => Run.ofExcept (head args)
  | .tail => Run.ofExcept (tail args)
  | .length => Run.ofExcept (length args)
  | .nth => Run.ofExcept (nth args)
  | .append => Run.ofExcept (append args)
  | .reverse => Run.ofExcept (reverse args)
  | .map => map ev args
  | .filter => filter ev args
  | .apply => apply ev args
  | .concat => Run.ofExcept (concat ev.host.nesting args)
  | .textLength => Run.ofExcept (textLength args)
  | .substring => Run.ofExcept (substring args)
  | .symbolOf => Run.ofExcept (symbolOf args)
  | .typeOf => Run.ofExcept (typeOf args)
  | .print => print ev.host.nesting args
  | .input => input args
  | .exit => exit args
  | .host f => ev.host.function f ev.toCaller args

namespace Evaluator

def runBuiltin (ev : Evaluator) (f : Builtin) (args : List Value) : Run Value :=
  if f.arity.accepts args.length then ev.perform args f.primitive
  else Run.fail (.lisp (.wrongCount f.arity args.length))

def runLambda (ev : Evaluator) (params : List String) (body args : List Value) : Run Value := do
  Run.onStack fun s => (params.zip args).foldl (fun s (name, v) => s.bindLocal name v) s
  ev.evalBody body

/-- What a builtin receives from a call: the forms themselves, or their values. -/
def arguments (ev : Evaluator) (f : Builtin) (forms : List Value) : Run (List Value) :=
  if f.special then return forms else forms.mapM ev.eval

/-- A call whose head has given a value. -/
def finishCall (ev : Evaluator) (forms : List Value) : Value → Run Value
  | .builtin f => do ev.runBuiltin f (← ev.arguments f forms)
  | .lambda params body =>
    if forms.length = params.length then do ev.runLambda params body (← forms.mapM ev.eval)
    else Run.fail (.lisp (.wrongCount (.fixed params.length) forms.length))
  | f => Run.fail (.lisp (.notCallable f))

def applyForm (ev : Evaluator) (head : Value) (forms : List Value) : Run Value := do
  ev.finishCall forms (← ev.eval head)

/-- A callable and values for it, in its own scope. Special builtins want source and are refused. -/
def applyValues (ev : Evaluator) (f : Value) (args : List Value) : Run Value :=
  match f with
  | .builtin b =>
    if b.special then Run.fail (.lisp (.notCallable f)) else ev.runBuiltin b args
  | .lambda params body =>
    if args.length = params.length then ev.runLambda params body args
    else Run.fail (.lisp (.wrongCount (.fixed params.length) args.length))
  | f => Run.fail (.lisp (.notCallable f))

def exhausted (host : Host) : Evaluator where
  eval _ := Run.fail (.host .tooDeep)
  call _ _ := Run.fail (.host .tooDeep)
  host := host

def deepen (ev : Evaluator) : Evaluator where
  eval
    | .symbol name => Run.lookup name
    | .quote v | .hostQuote v _ => return v
    | .list [] => Run.fail (.lisp .emptyCall)
    | .list (head :: forms) => Run.inScope (ev.applyForm head forms)
    | v => return v
  call f args := Run.inScope (ev.applyValues f args)
  host := ev.host

def atDepth (host : Host) : Nat → Evaluator
  | 0 => exhausted host
  | n + 1 => (atDepth host n).deepen

end Evaluator

def Host.evaluator (host : Host) : Evaluator := .atDepth host host.depth

end DynLisp
