import DynLisp.Proofs.Calls
import Mathlib.Data.List.Forall2

/-! Calls that only compute. A form settles where its evaluation ends without a change to the
machine. A call settles if its operands do and if the builtin makes its result from their values
alone; the result then is what the builtin makes of them, or the failure of an operand. -/

namespace DynLisp

open Evaluator Run

def Value.calling (name : String) (forms : List Value) : Value := .list (.symbol name :: forms)

def Machine.entered (m : Machine) : Machine := { m with stack := m.stack.enter }

/-- At the start, with this text to be read. -/
def Machine.reading (text : String) (ends : LineRule) : Machine :=
  ⟨⟨[], Library.globals⟩, .ofText text ends, .empty, [], 0⟩

/-- The evaluation ends in this result, and with the machine as it was. -/
def Evaluator.Settles (ev : Evaluator) (m : Machine) (form : Value)
    (result : Except Fault Value) : Prop := (ev.eval form).exec m = (result, m)

/-- Under any evaluator of the host the builtin makes its result from the values alone. -/
def Builtin.Computes (host : Host) (f : Builtin) (body : List Value → Except Fault Value) : Prop :=
  f.special = false ∧ ∀ ev : Evaluator, ev.host = host →
    ∀ args, ev.perform args f.primitive = Run.ofExcept (body args)

section

variable {host : Host} {m : Machine} {name : String} {f : Builtin} {body : List Value → Except Fault Value}

theorem Machine.Knows.entered (knows : m.Knows name) : m.entered.Knows name := knows

theorem settlesQuote (host : Host) (n : Nat) (m : Machine) (v : Value) :
    (atDepth host (n + 1)).Settles m (.quote v) (.ok v) := rfl

theorem settlesQuotes (host : Host) (n : Nat) (m : Machine) (vs : List Value) :
    List.Forall₂ (fun form v => (atDepth host (n + 1)).Settles m form (.ok v)) (vs.map .quote) vs :=
  List.forall₂_map_left_iff.2 (List.forall₂_same.2 fun v _ => settlesQuote host n m v)

theorem operandsGiven {ev : Evaluator} {forms vs : List Value}
    (operands : List.Forall₂ (fun form v => ev.Settles m form (.ok v)) forms vs) :
    (forms.mapM ev.eval).exec m = (.ok vs, m) := by
  induction operands with
  | nil => rfl
  | cons first _ ih => rw [List.mapM_cons, execBindOk first, execBindOk ih]; rfl

theorem execInScopeSettled {r : Run Value} {result : Except Fault Value}
    (settled : r.exec m.entered = (result, m.entered)) : (inScope r).exec m = (result, m) := by
  rw [Machine.entered] at settled
  rw [execInScope, settled]
  rfl

variable (host) (n : Nat) (bound : m.stack.lookup? name = some (.builtin f))
  (computes : f.Computes host body)
include bound computes

theorem settlesCall {forms vs : List Value} (accepted : f.arity.accepts vs.length = true)
    (operands : List.Forall₂ (fun form v => (atDepth host (n + 1)).Settles m.entered form (.ok v))
      forms vs) : (atDepth host (n + 2)).Settles m (.calling name forms) (body vs) := by
  rw [Settles, Value.calling, evalNamedCall host n bound, evalBuiltin]
  refine execInScopeSettled ?_
  rw [arguments, if_neg (by simp [computes.1]), execBindOk (operandsGiven operands), runBuiltin,
    if_pos accepted, computes.2 _ (hostAtDepth host (n + 1)), execOfExcept]

theorem settlesFailed {form : Value} {fault : Fault} (rest : List Value)
    (failed : (atDepth host (n + 1)).Settles m.entered form (.error fault)) :
    (atDepth host (n + 2)).Settles m (.calling name (form :: rest)) (.error fault) := by
  rw [Settles, Value.calling, evalNamedCall host n bound, evalBuiltin]
  refine execInScopeSettled ?_
  have stopped : ((form :: rest).mapM (atDepth host (n + 1)).eval).exec m.entered =
      (.error fault, m.entered) := by
    rw [List.mapM_cons, execBindError failed]
  rw [arguments, if_neg (by simp [computes.1]), execBindError stopped]

end

end DynLisp
