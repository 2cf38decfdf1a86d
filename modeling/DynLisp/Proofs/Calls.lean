import DynLisp.Library.Globals
import DynLisp.Proofs.ScopeDiscipline

/-! The two ways to call. A form evaluates its head and its operands where it
stands; the library calls with values that it holds. A form that quotes each of its
parts holds them too, and the two ways then do the same. -/

namespace DynLisp

/-- A builtin of the library as a value, whatever its name is bound to. -/
def Library.named (name : String) : Value := (globals.get? name).getD .nil

/-- The name means what the library means by it. -/
def Machine.Knows (m : Machine) (name : String) : Prop :=
  m.stack.lookup? name = some (Library.named name)

namespace Value

def applied (f : Value) (args : List Value) : Value := .list (.quote f :: args.map .quote)

def isSpecial : Value → Bool
  | builtin f => f.special
  | _ => false

end Value

open Evaluator Run

theorem mapMQuoted (host : Host) (n : Nat) (vs : List Value) :
    (vs.map Value.quote).mapM (atDepth host (n + 1)).eval = pure vs := by
  induction vs with
  | nil => rfl
  | cons v vs ih =>
    have first : (atDepth host (n + 1)).eval (.quote v) = pure v := rfl
    rw [List.map_cons, List.mapM_cons, first, pure_bind, ih, pure_bind]

theorem argumentsQuoted (host : Host) (n : Nat) {f : Builtin} (ordinary : f.special = false)
    (vs : List Value) : (atDepth host (n + 1)).arguments f (vs.map .quote) = pure vs := by
  unfold arguments
  rw [if_neg (by simp [ordinary]), mapMQuoted]

theorem evalNamedCall (host : Host) (n : Nat) {m : Machine} {name : String} {f : Builtin}
    (bound : m.stack.lookup? name = some (.builtin f)) (forms : List Value) :
    ((atDepth host (n + 2)).eval (.list (.symbol name :: forms))).exec m =
      ((atDepth host (n + 2)).eval (.list (.builtin f :: forms))).exec m := by
  have found : (lookup name).exec { m with stack := m.stack.enter } =
      (.ok (.builtin f), { m with stack := m.stack.enter }) := by
    rw [execLookup, ScopeStack.lookupEnter, bound]
  have head : ((atDepth host (n + 1)).applyForm (.symbol name) forms).exec
        { m with stack := m.stack.enter } =
      ((atDepth host (n + 1)).finishCall forms (.builtin f)).exec { m with stack := m.stack.enter } :=
    execBindOk found
  show (inScope ((atDepth host (n + 1)).applyForm (.symbol name) forms)).exec m =
    (inScope ((atDepth host (n + 1)).finishCall forms (.builtin f))).exec m
  rw [execInScope, execInScope, head]

theorem evalBuiltin (host : Host) (n : Nat) (f : Builtin) (forms : List Value) :
    (atDepth host (n + 2)).eval (.list (.builtin f :: forms)) =
      inScope ((atDepth host (n + 1)).arguments f forms >>= (atDepth host (n + 1)).runBuiltin f) := rfl

theorem evalBuiltinQuoted (host : Host) (n : Nat) {f : Builtin} (ordinary : f.special = false)
    (vs : List Value) : (atDepth host (n + 2)).eval (.list (.builtin f :: vs.map .quote)) =
      inScope ((atDepth host (n + 1)).runBuiltin f vs) := by
  rw [evalBuiltin, argumentsQuoted host n ordinary, pure_bind]

theorem finishCallQuoted (host : Host) (n : Nat) {f : Value} (ordinary : f.isSpecial = false)
    (vs : List Value) :
    (atDepth host (n + 1)).finishCall (vs.map .quote) f = (atDepth host (n + 1)).applyValues f vs := by
  cases f with
  | builtin f =>
    have plain : f.special = false := ordinary
    simp only [finishCall, applyValues, argumentsQuoted host n plain, pure_bind, plain,
      Bool.false_eq_true, if_false]
  | lambda params body =>
    -- The number of operands is compared before they are evaluated.
    simp only [finishCall, applyValues, mapMQuoted, pure_bind, List.length_map]
  | _ => rfl

theorem evalApplied (host : Host) (n : Nat) {f : Value} (ordinary : f.isSpecial = false)
    (vs : List Value) : (atDepth host (n + 2)).eval (f.applied vs) = (atDepth host (n + 2)).call f vs := by
  show inScope ((atDepth host (n + 1)).finishCall (vs.map .quote) f) = _
  rw [finishCallQuoted host n ordinary]
  rfl

/-- To keep every value and give the last is to keep only the last. -/
theorem mapMLast (ev : Evaluator) (forms : List Value) (v : Value) :
    (do return (← forms.mapM ev.eval).getLast?.getD v) =
      forms.foldlM (fun _ form => ev.eval form) v := by
  induction forms generalizing v with
  | nil => rfl
  | cons form forms ih =>
    rw [List.mapM_cons, List.foldlM_cons, bind_assoc]
    refine bind_congr fun w => ?_
    rw [← ih w, bind_assoc]
    simp [List.getLast?_cons]

theorem evalSequence (host : Host) (n : Nat) (forms : List Value) :
    (atDepth host (n + 2)).eval (.list (Library.named "seq" :: forms)) =
      inScope ((atDepth host (n + 1)).evalBody forms) :=
  congrArg inScope (mapMLast _ forms .nil)

theorem evalBodySingle (ev : Evaluator) (form : Value) : ev.evalBody [form] = ev.eval form :=
  bind_pure _

theorem evalList (host : Host) (n : Nat) (forms : List Value) :
    (atDepth host (n + 2)).eval (.list (Library.named "list" :: forms)) =
      inScope (do return .list (← forms.mapM (atDepth host (n + 1)).eval)) := rfl

theorem evalApply (host : Host) (n : Nat) (f : Value) (vs : List Value) :
    (atDepth host (n + 2)).eval (.list [Library.named "apply", .quote f, .quote (.list vs)]) =
      inScope ((atDepth host (n + 1)).call f vs) := rfl

theorem evalMap (host : Host) (n : Nat) (f : Value) (vs : List Value) :
    (atDepth host (n + 2)).eval (.list [Library.named "map", .quote f, .quote (.list vs)]) =
      inScope (do return .list (← vs.mapM fun v => (atDepth host (n + 1)).call f [v])) := rfl

theorem evalFilter (host : Host) (n : Nat) (f : Value) (vs : List Value) :
    (atDepth host (n + 2)).eval (.list [Library.named "filter", .quote f, .quote (.list vs)]) =
      inScope (Library.filter (atDepth host (n + 1)) [f, .list vs]) := rfl

section

variable (ev : Evaluator) (f : Value)

/-- The function answers the values with these Bools, in one call after another. -/
inductive Evaluator.Answers : Machine → List Value → List Bool → Machine → Prop where
  | nil (m) : Answers m [] [] m
  | cons {m v b next vs bs after} (given : (ev.call f [v]).exec m = (.ok (.bool b), next))
      (rest : Answers next vs bs after) : Answers m (v :: vs) (b :: bs) after

/-- The values that were answered with true; or what became of the first call that gave no Bool,
which was also the last one. -/
inductive Evaluator.Sifts (m : Machine) :
    List Value → Except Fault (List Value) → Machine → Prop where
  | all {vs bs after} (answers : ev.Answers f m vs bs after) :
      Sifts m vs (.ok (((vs.zip bs).filter Prod.snd).map Prod.fst)) after
  | failed {done bs before v fault after} (answers : ev.Answers f m done bs before)
      (raised : (ev.call f [v]).exec before = (.error fault, after)) (rest : List Value) :
      Sifts m (done ++ v :: rest) (.error fault) after
  | refused {done bs before v w after} (answers : ev.Answers f m done bs before)
      (given : (ev.call f [v]).exec before = (.ok w, after)) (other : ∀ b, w ≠ .bool b)
      (rest : List Value) :
      Sifts m (done ++ v :: rest) (.error (.lisp (.wrongType [.bool] w))) after

variable {ev f}

theorem Evaluator.Sifts.after {m next after : Machine} {v : Value} {b : Bool} {vs : List Value}
    {result : Except Fault (List Value)}
    (given : (ev.call f [v]).exec m = (.ok (.bool b), next))
    (sifts : ev.Sifts f next vs result after) :
    ev.Sifts f m (v :: vs) (result.map fun kept => if b then v :: kept else kept) after := by
  cases sifts with
  | @all _ bs _ answers =>
    have whole : ev.Sifts f m (v :: vs) _ after := .all (.cons given answers)
    cases b <;> exact whole
  | failed answers raised rest => exact .failed (.cons given answers) raised rest
  | refused answers answered other rest => exact .refused (.cons given answers) answered other rest

theorem asBoolOther {w : Value} (other : ∀ b, w ≠ .bool b) :
    w.asBool = .error (.lisp (.wrongType [.bool] w)) := by
  cases w with
  | bool b => exact absurd rfl (other b)
  | _ => rfl

variable (ev f) in
theorem keepSifts (vs : List Value) (m : Machine) : ∃ result after,
    ev.Sifts f m vs result after ∧ (Library.keep ev f vs).exec m = (result, after) := by
  induction vs generalizing m with
  | nil => exact ⟨_, _, .all (.nil m), rfl⟩
  | cons v vs ih =>
    rcases called : (ev.call f [v]).exec m with ⟨fault | w, next⟩
    · exact ⟨_, _, .failed (.nil m) called vs, execBindError called⟩
    by_cases bool : ∃ b, w = .bool b
    · obtain ⟨b, rfl⟩ := bool
      obtain ⟨result, after, sifts, kept⟩ := ih next
      refine ⟨_, _, sifts.after called, (execBindOk called).trans ?_⟩
      refine (execBindOk (a := b) (execOfExcept (.ok b) next)).trans ?_
      cases result with
      | error fault => exact execBindError kept
      | ok rest => exact (execBindOk kept).trans rfl
    · have other : ∀ b, w ≠ .bool b := fun b same => bool ⟨b, same⟩
      refine ⟨_, _, .refused (.nil m) called other vs, (execBindOk called).trans ?_⟩
      rw [asBoolOther other]
      rfl

end

/-- A call with values is the evaluation of the form that quotes each part. So applying calls once
and mapping calls for one value after another, as the written forms do; and filtering keeps the
values that are answered with true, up to the first call that fails or gives no Bool. -/
theorem callPathsAgree (host : Host) (n : Nat) (f : Value) (vs : List Value) :
    (f.isSpecial = false →
      (atDepth host (n + 2)).eval (f.applied vs) = (atDepth host (n + 2)).call f vs ∧
      (atDepth host (n + 3)).eval (.list [Library.named "apply", .quote f, .quote (.list vs)]) =
        (atDepth host (n + 3)).eval (.list [Library.named "seq", f.applied vs]) ∧
      (atDepth host (n + 3)).eval (.list [Library.named "map", .quote f, .quote (.list vs)]) =
        (atDepth host (n + 3)).eval
          (.list (Library.named "list" :: vs.map fun v => f.applied [v]))) ∧
    (host.KeepsScopes → ∀ m, ∃ result after,
      (atDepth host (n + 2)).Sifts f { m with stack := m.stack.enter } vs result after ∧
      ((atDepth host (n + 3)).eval
        (.list [Library.named "filter", .quote f, .quote (.list vs)])).exec m =
          (result.map .list, { after with stack := m.stack })) := by
  constructor
  · intro ordinary
    have call (vs : List Value) := evalApplied host n ordinary vs
    refine ⟨call vs, ?_, ?_⟩
    · rw [evalApply, evalSequence, evalBodySingle, call]
    · have each : (atDepth host (n + 2)).eval ∘ (fun v => f.applied [v]) =
          fun v => (atDepth host (n + 2)).call f [v] := funext fun v => call [v]
      rw [evalMap, evalList, List.mapM_map, each]
  · intro keeps m
    obtain ⟨result, after, sifts, kept⟩ :=
      keepSifts (atDepth host (n + 2)) f vs { m with stack := m.stack.enter }
    refine ⟨result, after, sifts, ?_⟩
    have filtered : (Library.filter (atDepth host (n + 2)) [f, .list vs]).exec
        { m with stack := m.stack.enter } = (result.map .list, after) := by
      cases result with
      | error fault => exact (execBindOk (execOfExcept _ _)).trans (execBindError kept)
      | ok items => exact (execBindOk (execOfExcept _ _)).trans ((execBindOk kept).trans rfl)
    rw [evalFilter, execScoped (Library.localFilter _ (localAtDepth keeps (n + 2))), filtered]

/-- What is printed before the second call fails is what the written calls print. -/
theorem mapStopsAtFailure :
    let host := Host.bare 400 400
    let f : Value := .lambda ["x"] [.list [.builtin ⟨"print", .print, .any, false⟩, .symbol "x"],
      .list [.builtin ⟨"not", .negation, .fixed 1, false⟩, .symbol "x"]]
    let vs : List Value := [.bool true, .nil, .bool false]
    let m : Machine := ⟨⟨[], ⟨[]⟩⟩, .ofText "" .newline, .empty, [], 0⟩
    let mapped :=
      ((atDepth host 5).eval (.list [Library.named "map", .quote f, .quote (.list vs)])).exec m
    let listed :=
      ((atDepth host 5).eval (.list (Library.named "list" :: vs.map fun v => f.applied [v]))).exec m
    let filtered :=
      ((atDepth host 5).eval (.list [Library.named "filter", .quote f, .quote (.list vs)])).exec m
    f.isSpecial = false ∧ listed = mapped ∧ mapped.1.isOk = false ∧
      mapped.2.output.written = "true\nnil\n" ∧ host.KeepsScopes ∧ filtered.2.stack = m.stack := by
  intro host f vs m mapped listed filtered
  have keeps := Host.bareKeepsScopes 400 400
  obtain ⟨alike, sifted⟩ := callPathsAgree host 2 f vs
  have same : listed = mapped := congrArg (·.exec m) (alike rfl).2.2.symm
  have ended : mapped =
      (inScope (do return .list (← vs.mapM fun v => (atDepth host 4).call f [v]))).exec m :=
    congrArg (·.exec m) (evalMap host 3 f vs)
  obtain ⟨result, after, _, kept⟩ := sifted keeps m
  have left : filtered.2.stack = m.stack := by rw [show filtered = _ from kept]
  refine ⟨rfl, same, ?_, ?_, keeps, left⟩ <;> rw [ended] <;> decide +kernel

end DynLisp
