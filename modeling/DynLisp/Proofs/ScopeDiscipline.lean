import DynLisp.Evaluator
import DynLisp.Proofs.LibraryOutcome
import DynLisp.Proofs.Run

/-! Evaluation and the scope stack. Whatever a form does, and however it ends, the
scopes that were active before it are as they were, but for one binding in the
innermost of them when the form is a definition that succeeded. A call works in a
scope of its own, so the invariant is agreement below the innermost scope. -/

namespace DynLisp

inductive ScopeStack.AgreeBelow : ScopeStack → ScopeStack → Prop where
  | globals (g h : Scope) : AgreeBelow ⟨[], g⟩ ⟨[], h⟩
  | entered (inner other : Scope) (rest : List Scope) (g : Scope) :
      AgreeBelow ⟨inner :: rest, g⟩ ⟨other :: rest, g⟩

namespace ScopeStack

variable {s t u : ScopeStack}

theorem AgreeBelow.refl (s : ScopeStack) : AgreeBelow s s := by
  obtain ⟨_ | ⟨inner, rest⟩, g⟩ := s
  · exact .globals g g
  · exact .entered inner inner rest g

theorem AgreeBelow.trans (left : AgreeBelow s t) (right : AgreeBelow t u) : AgreeBelow s u := by
  cases left with
  | globals g _ => cases right; exact .globals g _
  | entered inner _ rest g => cases right; exact .entered inner _ rest g

theorem agreeBelowBindLocal (s : ScopeStack) (name : String) (v : Value) :
    AgreeBelow s (s.bindLocal name v) := by
  obtain ⟨_ | ⟨inner, rest⟩, g⟩ := s
  · exact .globals g _
  · exact .entered inner _ rest g

theorem agreeBelowBindAll (s : ScopeStack) (pairs : List (String × Value)) :
    AgreeBelow s (pairs.foldl (fun s (name, v) => s.bindLocal name v) s) := by
  induction pairs generalizing s with
  | nil => exact .refl s
  | cons pair rest ih => exact (agreeBelowBindLocal s pair.1 pair.2).trans (ih _)

theorem leaveAgreeBelow (same : AgreeBelow s.enter t) : t.leave? = some s := by
  cases same; rfl

theorem leaveBindAbove (same : AgreeBelow s.enter t) (name : String) (v : Value) :
    (t.bindAbove name v).leave? = some (s.bindLocal name v) := by
  cases same
  obtain ⟨_ | ⟨inner, rest⟩, g⟩ := s <;> rfl

end ScopeStack

open ScopeStack (AgreeBelow)

/-- Changes the innermost scope at most, also when it fails, and leaves no scope that is
not its own. -/
structure Run.Local {α : Type} (r : Run α) : Prop where
  agree : ∀ m, AgreeBelow m.stack (r.exec m).2.stack
  entered : ∀ m, (r.exec m).1 ≠ .error (.host .globalScope)

namespace Run

variable {α β : Type}

theorem localPure (a : α) : (pure a : Run α).Local := ⟨fun _ => .refl _, nofun⟩

theorem localFail {fault : Fault} (other : fault ≠ .host .globalScope) :
    (fail fault : Run α).Local :=
  ⟨fun _ => .refl _, fun _ same => other (Except.error.inj same)⟩

theorem localRefuse (error : LispError) : (fail (.lisp error) : Run α).Local := localFail nofun

theorem localYields {Q : α → Prop} {result : Except Fault α}
    (yields : Yields Fault.Inside Q result) : (ofExcept result).Local :=
  ⟨fun _ => .refl _, fun _ => yields.inside⟩

theorem localShort (fault : HostFault) (short : fault.IsShortage) :
    (ofExcept (.error (.host fault)) : Run α).Local :=
  ⟨fun _ => .refl _, fun _ same => by cases same; exact short⟩

theorem localGet : (get : Run Machine).Local := ⟨fun _ => .refl _, nofun⟩

theorem localBind {r : Run α} {next : α → Run β} (first : r.Local)
    (rest : ∀ a, (next a).Local) : (r >>= next).Local := by
  constructor <;> intro m <;> rw [execBind] <;> rcases h : r.exec m with ⟨_ | a, after⟩
  · simpa only [h] using first.agree m
  · have step := first.agree m
    rw [h] at step
    exact step.trans ((rest a).agree after)
  · simpa only [h, ne_eq, Except.error.injEq] using first.entered m
  · exact (rest a).entered after

theorem localMapM {f : α → Run β} (each : ∀ a, (f a).Local) (as : List α) :
    (as.mapM f).Local := by
  induction as with
  | nil => exact localPure []
  | cons a as ih =>
    rw [List.mapM_cons]
    exact localBind (each a) fun b => localBind ih fun bs => localPure (b :: bs)

theorem localForM {f : α → Run Unit} (each : ∀ a, (f a).Local) (as : List α) :
    (as.forM f).Local := by
  induction as with
  | nil => exact localPure ()
  | cons a as ih => exact localBind (each a) fun _ => ih

theorem localFoldlM {f : β → α → Run β} (each : ∀ b a, (f b a).Local) (b : β) (as : List α) :
    (as.foldlM f b).Local := by
  induction as generalizing b with
  | nil => exact localPure b
  | cons a as ih =>
    rw [List.foldlM_cons]
    exact localBind (each b a) fun c => ih c

theorem localBindLocal (name : String) (v : Value) :
    (onStack (·.bindLocal name v)).Local :=
  ⟨fun m => ScopeStack.agreeBelowBindLocal m.stack name v, nofun⟩

theorem localLookup (name : String) : (lookup name).Local := by
  refine localBind localGet fun m => ?_
  split
  · exact localPure _
  · exact localFail nofun

theorem localOfNumber (x : Number) : (ofNumber x).Local := by
  unfold ofNumber
  split
  · exact localBind ⟨fun _ => .refl _, nofun⟩ fun mark => localPure _
  · exact localPure _

theorem refusesInside {m : Machine} : ¬ m.Refuses (.host .globalScope) := nofun

theorem localRequest (r : OutputRequest) : (request r).Local :=
  ⟨fun _ => .refl _, fun _ failed => refusesInside (requestRefused failed)⟩

theorem localReadLine : readLine.Local :=
  ⟨fun _ => .refl _, fun _ failed => refusesInside (readLineRefused failed)⟩

def EndsLocal (m : Machine) (ended : Except Fault α × Machine) : Prop :=
  AgreeBelow m.stack ended.2.stack ∧ ended.1 ≠ .error (.host .globalScope)

def EndsDefining (m : Machine) (ended : Except Fault Value × Machine) (name : String)
    (v : Value) : Prop :=
  ended.1 = .ok .nil ∧ ∃ t, AgreeBelow m.stack t ∧ ended.2.stack = t.bindAbove name v

theorem Local.ends {r : Run α} (h : r.Local) (m : Machine) : EndsLocal m (r.exec m) :=
  ⟨h.agree m, h.entered m⟩

theorem EndsLocal.after {m before : Machine} {ended : Except Fault α × Machine}
    (first : AgreeBelow m.stack before.stack) (h : EndsLocal before ended) : EndsLocal m ended :=
  ⟨first.trans h.1, h.2⟩

theorem EndsDefining.after {m before : Machine} {ended : Except Fault Value × Machine}
    {name : String} {v : Value} (first : AgreeBelow m.stack before.stack)
    (h : EndsDefining before ended name v) : EndsDefining m ended name v := by
  obtain ⟨done, t, same, stack⟩ := h
  exact ⟨done, t, first.trans same, stack⟩

theorem inScopeLocal {body : Run α} {m : Machine}
    (ends : EndsLocal { m with stack := m.stack.enter }
      (body.exec { m with stack := m.stack.enter })) :
    ((inScope body).exec m).1 = (body.exec { m with stack := m.stack.enter }).1 ∧
      ((inScope body).exec m).2.stack = m.stack := by
  have left := ScopeStack.leaveAgreeBelow ends.1
  simp only [execInScope, left, and_self]

theorem execScoped {body : Run α} (stays : body.Local) (m : Machine) :
    (inScope body).exec m =
      let (result, after) := body.exec { m with stack := m.stack.enter }
      (result, { after with stack := m.stack }) := by
  have left := ScopeStack.leaveAgreeBelow (stays.agree { m with stack := m.stack.enter })
  simp only [execInScope, left]

theorem inScopeDefining {body : Run Value} {m : Machine} {name : String} {v : Value}
    (ends : EndsDefining { m with stack := m.stack.enter }
      (body.exec { m with stack := m.stack.enter }) name v) :
    ((inScope body).exec m).1 = .ok .nil ∧
      ((inScope body).exec m).2.stack = m.stack.bindLocal name v := by
  obtain ⟨done, t, same, stack⟩ := ends
  have left := ScopeStack.leaveBindAbove same name v
  simp only [execInScope, stack, left, done, and_self]

end Run

open Run

structure Caller.Local (c : Caller) : Prop where
  eval : ∀ e, (c.eval e).Local
  call : ∀ f args, (c.call f args).Local

/-- A function of the host that is given an evaluator which keeps the scopes keeps them. -/
def Host.KeepsScopes (host : Host) : Prop :=
  ∀ f (c : Caller), c.Local → ∀ args, (host.function f c args).Local

theorem Host.bareKeepsScopes (nesting depth : Nat) : (bare nesting depth).KeepsScopes :=
  fun _ _ _ _ => localFail nofun

/-- A host whose functions call their first argument with the others. -/
def Host.callBack (nesting depth : Nat) : Host :=
  ⟨fun _ c args => c.call (args.headD .nil) args.tail, nesting, depth⟩

theorem Host.callBackKeepsScopes (nesting depth : Nat) : (callBack nesting depth).KeepsScopes :=
  fun _ _ stays _ => stays.call _ _

structure Evaluator.Local (ev : Evaluator) : Prop extends Caller.Local ev.toCaller where
  host : ev.host.KeepsScopes

namespace Library

variable {ev : Evaluator} (args : List Value)

theorem localNumeric {f : List Number → Except Fault Number}
    (each : ∀ xs, Yields Fault.Inside (fun _ => True) (f xs)) : (numeric f args).Local :=
  localBind (localYields (yieldsNumbers .any (fun v _ => v.withinAny) fun xs _ => each xs))
    fun x => localOfNumber x

theorem localPrint (limit : Nat) : (print limit args).Local :=
  localBind (localYields (yieldsShown (fun _ _ _ => nofun) _)) fun _ =>
    localBind (localRequest _) fun _ => localPure _

theorem localPrompt : (prompt args).Local := by
  cases args with
  | nil => exact localPure ()
  | cons v _ =>
    exact localBind (localYields (Value.yieldsText .any v.withinAny)) fun text =>
      localBind (localRequest _) fun _ => localRequest _

theorem localInput : (input args).Local := by
  refine localBind (localPrompt args) fun _ => localBind localReadLine fun line => ?_
  split
  · exact localRefuse _
  · split <;> exact localPure _

theorem localExit : (exit args).Local :=
  localBind (localYields (yieldsExitCode .any nofun nofun)) fun _ => localFail nofun

theorem localEvalBody (h : ev.Local) (forms : List Value) : (ev.evalBody forms).Local :=
  localFoldlM (fun _ form => h.eval form) .nil forms

theorem localConditional (h : ev.Local) : (conditional ev args).Local := by
  unfold conditional
  split
  · refine localBind (h.eval _) fun v =>
      localBind (localYields (Value.yieldsBool .any v.withinAny)) fun taken => ?_
    split
    · exact h.eval _
    · exact h.eval _
    · exact localShort _ trivial
    · exact localPure _
  · exact localShort _ trivial

theorem localBindOne (h : ev.Local) (binding : Value) : (bindOne ev binding).Local := by
  refine localBind (localYields (Value.yieldsList .any binding.withinAny)) fun pair => ?_
  split
  · exact localBind (localYields (Value.yieldsSymbol .any (Value.withinAny _))) fun name =>
      localBind (h.eval _) fun v => localBindLocal name v
  · exact localRefuse _

theorem localLetIn (h : ev.Local) : (letIn ev args).Local := by
  unfold letIn
  split
  · exact localBind (localYields (Value.yieldsList .any (Value.withinAny _))) fun items =>
      localBind (localForM (localBindOne h) items) fun _ => localEvalBody h _
  · exact localShort _ trivial

theorem localEvaluate (h : ev.Local) : (evaluate ev args).Local := by
  unfold evaluate
  split
  · exact h.eval _
  · exact localShort _ trivial

theorem localPair (got : Nat) : (Run.ofExcept (noPair got) : Run Value).Local := by
  refine localShort _ ?_
  split <;> trivial

theorem localMap (h : ev.Local) : (map ev args).Local := by
  unfold map
  split
  · exact localBind (localYields (Value.yieldsList .any (Value.withinAny _))) fun items =>
      localBind (localMapM (fun v => h.call _ [v]) items) fun _ => localPure _
  · exact localPair args.length

theorem localKeep (h : ev.Local) (f : Value) (vs : List Value) : (keep ev f vs).Local := by
  induction vs with
  | nil => exact localPure []
  | cons v vs ih =>
    exact localBind (h.call f [v]) fun kept =>
      localBind (localYields (Value.yieldsBool .any kept.withinAny)) fun _ =>
        localBind ih fun _ => localPure _

theorem localFilter (h : ev.Local) : (filter ev args).Local := by
  unfold filter
  split
  · exact localBind (localYields (Value.yieldsList .any (Value.withinAny _))) fun items =>
      localBind (localKeep h _ items) fun _ => localPure _
  · exact localPair args.length

theorem localApply (h : ev.Local) : (apply ev args).Local := by
  unfold apply
  split
  · exact localBind (localYields (Value.yieldsListOrNil .any (Value.withinAny _))) fun items =>
      h.call _ items
  · exact localPair args.length

end Library

open Library in
theorem Evaluator.localPerform {ev : Evaluator} (h : ev.Local) (args : List Value)
    (p : Primitive) (other : p ≠ .define) : (ev.perform args p).Local := by
  cases p with
  | define => exact absurd rfl other
  | conditional => exact localConditional args h
  | letIn => exact localLetIn args h
  | lambdaOf => exact localYields (yieldsLambdaOf .any)
  | quoteOf => exact localYields (yieldsQuoteOf .any)
  | evaluate => exact localEvaluate args h
  | add => exact localNumeric args (yieldsAdd fun _ => nofun)
  | subtract => exact localNumeric args fun _ => yieldsSubtract fun _ => Fault.shortInside
  | multiply => exact localNumeric args fun _ => trivial
  | divide => exact localNumeric args fun _ => yieldsDivide .any fun _ => Fault.shortInside
  | power => exact localNumeric args fun _ => yieldsPower .any fun _ => Fault.shortInside
  | modulo => exact localNumeric args fun _ => yieldsModulo .any fun _ => Fault.shortInside
  | equal => exact localYields (yieldsEqual .any)
  | notEqual => exact localYields (yieldsNotEqual .any)
  | less | lessEqual | greater | greaterEqual =>
    exact localYields (yieldsCompared .any (fun v _ => v.withinAny) _)
  | conjunction => exact localYields (yieldsConjunction .any)
  | disjunction => exact localYields (yieldsDisjunction .any)
  | negation => exact localYields (yieldsNegation .any)
  | cons => exact localYields (yieldsCons .any)
  | head => exact localYields (yieldsHead .any)
  | tail => exact localYields (yieldsTail .any)
  | length => exact localYields (yieldsLength .any)
  | nth => exact localYields (yieldsNth .any)
  | append => exact localYields (yieldsAppend .any)
  | reverse => exact localYields (yieldsReverse .any)
  | map => exact localMap args h
  | filter => exact localFilter args h
  | apply => exact localApply args h
  | textLength => exact localYields (yieldsTextLength .any)
  | substring => exact localYields (yieldsSubstring .any)
  | symbolOf => exact localYields (yieldsSymbolOf .any fun _ _ _ _ => nofun)
  | typeOf => exact localYields (yieldsTypeOf .any)
  | sequence | listOf => exact localPure _
  | concat => exact localYields (yieldsConcat (P := fun _ => True) fun _ _ _ => nofun)
  | print => exact localPrint args ev.host.nesting
  | input => exact localInput args
  | exit => exact localExit args
  | host f => exact h.host f ev.toCaller h.toLocal args

namespace Evaluator

inductive Defines (ev : Evaluator) (m : Machine) : List Value → String → Value → Prop where
  | form {name form v after} (given : (ev.eval form).exec m = (.ok v, after)) :
      Defines ev m [.symbol name, form] name v
  | function (name : String) (params : List String) (body : List Value) :
      Defines ev m (.list (.symbol name :: params.map .symbol) :: body) name
        (.lambda params body)

def CallsDefine (ev : Evaluator) (m : Machine) (e : Value) (f : Builtin) (forms : List Value)
    (after : Machine) : Prop :=
  ∃ head, e = .list (head :: forms) ∧ f.primitive = .define ∧
    (ev.eval head).exec { m with stack := m.stack.enter } = (.ok (.builtin f), after)

/-- At `m` the call `e` is a definition of `name` as `v`. -/
def DefinesAt (ev : Evaluator) (m : Machine) (e : Value) (name : String) (v : Value) : Prop :=
  ∃ f forms headed args ready, ev.CallsDefine m e f forms headed ∧
    (ev.arguments f forms).exec headed = (.ok args, ready) ∧ ev.Defines ready args name v

end Evaluator

open Library

variable {ev : Evaluator}

theorem defineEnds (h : ev.Local) (args : List Value) (m : Machine) :
    let ended := (Library.define ev args).exec m
    (EndsLocal m ended ∧ ∃ fault, ended.1 = .error fault) ∨
      ∃ name v, ev.Defines m args name v ∧ EndsDefining m ended name v := by
  have refused {fault : Fault} (inside : fault.Inside) :
      EndsLocal m ((Run.ofExcept (.error fault) : Run Value).exec m) ∧
        ∃ other, ((Run.ofExcept (.error fault) : Run Value).exec m).1 = .error other := by
    have kept : (Run.ofExcept (.error fault) : Run Value).Local := localFail inside
    exact ⟨kept.ends m, fault, rfl⟩
  unfold Library.define
  split
  · rename_i name form
    have agree := (h.eval form).ends m
    rcases given : (ev.eval form).exec m with ⟨fault | v, after⟩ <;> rw [given] at agree
    · rw [execBindError given]
      exact .inl ⟨agree, fault, rfl⟩
    · rw [execBindOk given]
      exact .inr ⟨name, v, .form given, rfl, _, agree.1, rfl⟩
  · exact .inl (refused nofun)
  · exact .inl (refused nofun)
  · rename_i name params body
    cases name with
    | symbol name =>
      have inside := Yields.mapM fun v (_ : v ∈ params) => Value.yieldsSymbol .any v.withinAny
      have first (next : String → Run Value) :
          (Run.ofExcept (Value.symbol name).asSymbol >>= next).exec m = (next name).exec m := rfl
      rw [first]
      cases named : params.mapM Value.asSymbol with
      | error fault =>
        rw [named] at inside
        exact .inl (refused inside)
      | ok names =>
        cases Value.projectedAll Value.asSymbolGives named
        exact .inr ⟨name, _, .function name names body, rfl, _, .refl _, rfl⟩
    | _ => exact .inl (refused nofun)
  · exact .inl (refused nofun)
  · exact .inl (refused nofun)

theorem runDefineEnds (h : ev.Local) {f : Builtin} (defines : f.primitive = .define)
    (args : List Value) (m : Machine) :
    let ended := (ev.runBuiltin f args).exec m
    (EndsLocal m ended ∧ ∃ fault, ended.1 = .error fault) ∨
      ∃ name v, ev.Defines m args name v ∧ EndsDefining m ended name v := by
  unfold Evaluator.runBuiltin
  split
  · rw [defines]
    exact defineEnds h args m
  · exact .inl ⟨(localRefuse _).ends m, _, rfl⟩

theorem localRunBuiltin (h : ev.Local) {f : Builtin} (other : f.primitive ≠ .define)
    (args : List Value) : (ev.runBuiltin f args).Local := by
  unfold Evaluator.runBuiltin
  split
  · exact Evaluator.localPerform h args f.primitive other
  · exact localRefuse _

theorem localRunLambda (h : ev.Local) (params : List String) (body args : List Value) :
    (ev.runLambda params body args).Local :=
  localBind ⟨fun m => ScopeStack.agreeBelowBindAll m.stack (params.zip args), nofun⟩
    fun _ => localEvalBody h body

theorem localArguments (h : ev.Local) (f : Builtin) (forms : List Value) :
    (ev.arguments f forms).Local := by
  unfold Evaluator.arguments
  split
  · exact localPure forms
  · exact localMapM h.eval forms

theorem finishCallEnds (h : ev.Local) (forms : List Value) (f : Value) (m : Machine) :
    let ended := (ev.finishCall forms f).exec m
    (EndsLocal m ended ∧ ∀ b, f = .builtin b → b.primitive = .define →
      ∃ fault, ended.1 = .error fault) ∨
    ∃ b args ready name v, f = .builtin b ∧ b.primitive = .define ∧
      (ev.arguments b forms).exec m = (.ok args, ready) ∧ ev.Defines ready args name v ∧
      EndsDefining m ended name v := by
  unfold Evaluator.finishCall
  split
  · rename_i b
    have given := (localArguments h b forms).ends m
    by_cases defines : b.primitive = .define
    · rcases ready : (ev.arguments b forms).exec m with ⟨fault | args, start⟩ <;>
        rw [ready] at given
      · rw [execBindError ready]
        exact .inl ⟨⟨given.1, by simpa using given.2⟩, fun _ _ _ => ⟨fault, rfl⟩⟩
      · rw [execBindOk ready]
        rcases runDefineEnds h defines args start with ⟨ends, failed⟩ | ⟨name, v, made, ends⟩
        · exact .inl ⟨ends.after given.1, fun _ _ _ => failed⟩
        · exact .inr ⟨b, args, start, name, v, rfl, defines, ready, made, ends.after given.1⟩
    · have stays := localBind (localArguments h b forms) (localRunBuiltin h defines)
      refine .inl ⟨stays.ends m, fun other same called => ?_⟩
      cases same
      exact absurd called defines
  · rename_i params body
    split
    · have stays := localBind (localMapM h.eval forms) (localRunLambda h params body)
      exact .inl ⟨stays.ends m, nofun⟩
    · exact .inl ⟨(localRefuse _).ends m, nofun⟩
  · rename_i other _
    exact .inl ⟨(localRefuse _).ends m, fun b same => absurd same (other b)⟩

theorem applyFormEnds (h : ev.Local) (head : Value) (forms : List Value) (m : Machine) :
    let ended := (ev.applyForm head forms).exec m
    (EndsLocal m ended ∧ ∀ b headed, (ev.eval head).exec m = (.ok (.builtin b), headed) →
      b.primitive = .define → ∃ fault, ended.1 = .error fault) ∨
    ∃ b headed args ready name v, (ev.eval head).exec m = (.ok (.builtin b), headed) ∧
      b.primitive = .define ∧ (ev.arguments b forms).exec headed = (.ok args, ready) ∧
      ev.Defines ready args name v ∧ EndsDefining m ended name v := by
  have first := (h.eval head).ends m
  rcases headed : (ev.eval head).exec m with ⟨fault | f, after⟩ <;> rw [headed] at first
  · rw [show (ev.applyForm head forms).exec m = (.error fault, after) from execBindError headed]
    exact .inl ⟨first, fun _ _ _ _ => ⟨fault, rfl⟩⟩
  · rw [show (ev.applyForm head forms).exec m = (ev.finishCall forms f).exec after from
      execBindOk headed]
    rcases finishCallEnds h forms f after with
      ⟨ends, failed⟩ | ⟨b, args, ready, name, v, same, defines, given, made, ends⟩
    · refine .inl ⟨ends.after first.1, fun b headed same defines => failed b ?_ defines⟩
      cases same; rfl
    · cases same
      exact .inr ⟨b, after, args, ready, name, v, rfl, defines, given, made, ends.after first.1⟩

theorem applyValuesEnds (h : ev.Local) (f : Value) (args : List Value) (m : Machine) :
    let ended := (ev.applyValues f args).exec m
    EndsLocal m ended ∨ ∃ name v, EndsDefining m ended name v := by
  unfold Evaluator.applyValues
  split
  · rename_i b
    split
    · exact .inl ((localRefuse _).ends m)
    · by_cases defines : b.primitive = .define
      · rcases runDefineEnds h defines args m with ⟨ends, _⟩ | ⟨name, v, _, ends⟩
        · exact .inl ends
        · exact .inr ⟨name, v, ends⟩
      · exact .inl ((localRunBuiltin h defines args).ends m)
  · split
    · exact .inl ((localRunLambda h _ _ args).ends m)
    · exact .inl ((localRefuse _).ends m)
  · exact .inl ((localRefuse _).ends m)

theorem localApplyValues (h : ev.Local) (f : Value) (args : List Value) (m : Machine) :
    EndsLocal m ((inScope (ev.applyValues f args)).exec m) := by
  rcases applyValuesEnds h f args { m with stack := m.stack.enter } with ends | ⟨name, v, ends⟩
  · have left := inScopeLocal ends
    rw [EndsLocal, left.1, left.2]
    exact ⟨.refl _, ends.2⟩
  · have left := inScopeDefining ends
    rw [EndsLocal, left.1, left.2]
    exact ⟨ScopeStack.agreeBelowBindLocal m.stack name v, nofun⟩

def EndsScoped (ev : Evaluator) (m : Machine) (e : Value)
    (ended : Except Fault Value × Machine) : Prop :=
  (ended.1 ≠ .error (.host .globalScope) ∧ ended.2.stack = m.stack ∧
    ∀ f forms headed, ev.CallsDefine m e f forms headed → ∃ fault, ended.1 = .error fault) ∨
  (∃ name v, ev.DefinesAt m e name v ∧ ended.1 = .ok .nil ∧
    ended.2.stack = m.stack.bindLocal name v)

theorem EndsScoped.local {m : Machine} {e : Value} {ended : Except Fault Value × Machine}
    (h : EndsScoped ev m e ended) : EndsLocal m ended := by
  rcases h with ⟨inside, same, _⟩ | ⟨name, v, _, done, same⟩ <;> rw [EndsLocal, same]
  · exact ⟨.refl _, inside⟩
  · rw [done]
    exact ⟨ScopeStack.agreeBelowBindLocal m.stack name v, nofun⟩

theorem atomScoped {r : Run Value} {m : Machine} {e : Value} (stays : r.Local)
    (same : (r.exec m).2.stack = m.stack) (atom : ∀ head forms, e ≠ .list (head :: forms)) :
    EndsScoped ev m e (r.exec m) :=
  .inl ⟨stays.entered m, same, fun _ _ _ ⟨_, call, _⟩ => absurd call (atom _ _)⟩

theorem deepenScoped (h : ev.Local) (e : Value) (m : Machine) :
    EndsScoped ev m e ((ev.deepen.eval e).exec m) := by
  dsimp only [Evaluator.deepen]
  split
  · rename_i name
    refine atomScoped (localLookup name) ?_ nofun
    rw [execLookup]
    split <;> rfl
  · exact atomScoped (localPure _) rfl nofun
  · exact atomScoped (localPure _) rfl nofun
  · exact atomScoped (localRefuse _) rfl nofun
  · rename_i head forms
    rcases applyFormEnds h head forms { m with stack := m.stack.enter } with
      ⟨ends, failed⟩ | ⟨f, headed, args, ready, name, v, called, defines, given, made, ends⟩
    · have left := inScopeLocal ends
      refine .inl ⟨left.1 ▸ ends.2, left.2, fun f forms headed ⟨_, call, defines, called⟩ => ?_⟩
      cases call
      exact left.1 ▸ failed f headed called defines
    · exact .inr ⟨name, v, ⟨f, forms, headed, args, ready, ⟨head, rfl, defines, called⟩, given,
        made⟩, inScopeDefining ends⟩
  · rename_i other
    exact atomScoped (localPure _) rfl fun head forms same => other head forms same

theorem localDeepen (h : ev.Local) : ev.deepen.Local where
  eval e := ⟨fun m => (deepenScoped h e m).local.1, fun m => (deepenScoped h e m).local.2⟩
  call f args := ⟨fun m => (localApplyValues h f args m).1, fun m => (localApplyValues h f args m).2⟩
  host := h.host

theorem Evaluator.hostAtDepth (host : Host) (n : Nat) : (atDepth host n).host = host := by
  induction n with
  | zero => rfl
  | succ n ih => exact ih

theorem localAtDepth {host : Host} (keeps : host.KeepsScopes) (n : Nat) :
    (Evaluator.atDepth host n).Local := by
  induction n with
  | zero => exact ⟨⟨fun _ => localFail nofun, fun _ _ => localFail nofun⟩, keeps⟩
  | succ n ih => exact localDeepen ih

/-- Evaluation ends with every scope as it was, unless the form calls `define` and succeeds; then
it has made one binding, in the scope that was innermost, and no other. -/
theorem evalKeepsScopes {host : Host} (keeps : host.KeepsScopes) (n : Nat) (e : Value)
    (m : Machine) :
    let inner := Evaluator.atDepth host n
    let ended := ((Evaluator.atDepth host (n + 1)).eval e).exec m
    ended.1 ≠ .error (.host .globalScope) ∧
    ((ended.2.stack = m.stack ∧ ¬ ∃ f forms headed v, inner.CallsDefine m e f forms headed ∧
        ended.1 = .ok v) ∨
      ∃ name v, inner.DefinesAt m e name v ∧ ended.1 = .ok .nil ∧
        ended.2.stack = m.stack.bindLocal name v) := by
  intro inner ended
  have ends : EndsScoped inner m e ended := deepenScoped (localAtDepth keeps n) e m
  refine ⟨ends.local.2, ?_⟩
  rcases ends with ⟨_, same, failed⟩ | defined
  · refine .inl ⟨same, fun ⟨f, forms, headed, v, call, done⟩ => ?_⟩
    obtain ⟨fault, failed⟩ := failed f forms headed call
    exact nomatch failed.symm.trans done
  · exact .inr defined

/-- A definition in a function that the host calls is gone with the scope of that call. -/
theorem calledBackKeepsScopes :
    let host := Host.callBack 400 400
    let call : Builtin := ⟨"call", .host ⟨0⟩, .fixed 1, false⟩
    let define : Builtin := ⟨"define", .define, .atLeast 2, true⟩
    let form := .list [.builtin call, .lambda [] [.list [.builtin define, .symbol "y", .nil]]]
    let m : Machine := ⟨⟨[], ⟨[("y", .bool true)]⟩⟩, .ofText "" .newline, .empty, [], 0⟩
    let ended := ((Evaluator.atDepth host 10).eval form).exec m
    host.KeepsScopes ∧ ended.1 = .ok .nil ∧ ended.2.stack = m.stack := by
  intro host call define form m ended
  have keeps : host.KeepsScopes := Host.callBackKeepsScopes 400 400
  refine ⟨keeps, rfl, ?_⟩
  rcases (evalKeepsScopes keeps 9 form m).2 with ⟨same, _⟩ | ⟨_, _, defined, _, _⟩
  · exact same
  · obtain ⟨f, _, _, _, _, ⟨head, called, defines, gave⟩, _⟩ := defined
    simp only [form, Value.list.injEq, List.cons.injEq] at called
    obtain ⟨rfl, _⟩ := called
    cases gave
    cases defines

end DynLisp
