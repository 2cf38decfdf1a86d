import DynLisp.Evaluator
import DynLisp.Proofs.Relay

/-! The bodies of the library, called with as many arguments as their arities accept, of
whatever kind. A body that fails raises an error of the language, or one of the few
faults of the host that are its own; or it ends as an evaluation ended that it asked for.
Faults of arguments that are not there are then never met, nor is zero ever divided by.
Three faults of the host pass through that depend on what it hands over: errors of its
streams other than those of the system, texts of which it makes no symbols, and values
that are nested too deep for it to print. -/

namespace DynLisp

/-- The faults that a primitive raises by itself. -/
inductive Primitive.Raises : Primitive → Fault → Prop where
  | language (p error) : Raises p (.lisp error)
  | sum (cause) : Raises .add (.host (.sum cause))
  | exit (code) : Raises .exit (.host (.exit code))
  | infinite : Raises .exit (.host .integerOfInfinity)
  | undefined : Raises .exit (.host .integerOfNaN)

/-- The faults that a primitive lets through from what the host underneath refuses. -/
inductive Primitive.LetsThrough (limit : Nat) (m : Machine) (args : List Value) :
    Primitive → Fault → Prop where
  | written {e} (raises : m.Raises e) : LetsThrough limit m args .print (.host (.raised e))
  | asked {e} (raises : m.Raises e) : LetsThrough limit m args .input (.host (.raised e))
  | uninterned {s typeName rest} (first : args = .derivedText s typeName :: rest) :
      LetsThrough limit m args .symbolOf (.host (.uninterned typeName))
  | printed {v} (member : v ∈ args) (deep : limit < v.nesting) :
      LetsThrough limit m args .print (.host .tooDeep)
  | shown {v} (member : v ∈ args) (deep : limit < v.nesting) :
      LetsThrough limit m args .concat (.host .tooDeep)

/-- The faults of a primitive that are not those of an evaluation it asked for. -/
def Primitive.Own (limit : Nat) (m : Machine) (args : List Value) (p : Primitive) (fault : Fault) :
    Prop := p.Raises fault ∨ p.LetsThrough limit m args fault

def Primitive.divisors : Primitive → List Value → List Value
  | .divide, [v] => [v]
  | .divide, _ :: vs => vs
  | .modulo, [_, d] => [d]
  | _, _ => []

/-- The evaluations and calls that a primitive asks for. -/
inductive Evaluator.Asks (ev : Evaluator) : Primitive → List Value → Run Value → Prop where
  | definition (name form) : Asks ev .define [.symbol name, form] (ev.eval form)
  | branch {forms form} (member : form ∈ forms) : Asks ev .conditional forms (ev.eval form)
  | binding {items body name form} (member : .list [.symbol name, form] ∈ items) :
      Asks ev .letIn (.list items :: body) (ev.eval form)
  | body {bindings forms form} (member : form ∈ forms) :
      Asks ev .letIn (bindings :: forms) (ev.eval form)
  | again (v rest) : Asks ev .evaluate (v :: rest) (ev.eval v)
  | map {f items v} (member : v ∈ items) : Asks ev .map [f, .list items] (ev.call f [v])
  | filter {f items v} (member : v ∈ items) : Asks ev .filter [f, .list items] (ev.call f [v])
  | apply {f vs items} (listed : vs.asListOrNil = .ok items) : Asks ev .apply [f, vs] (ev.call f items)

open Run

theorem Admits.language {F : Fault → Prop} (admits : Admits (fun _ => True) F) (e : LispError) :
    F (.lisp e) := admits.lisp e fun v _ => v.withinAny

theorem Primitive.ownAdmits {limit : Nat} {m : Machine} {args : List Value} (p : Primitive) :
    Admits (fun _ => True) (p.Own limit m args) := ⟨fun e _ => .inl (.language p e)⟩

theorem Primitive.ownApplied {limit : Nat} {m : Machine} {p : Primitive} {args : List Value}
    (accepted : ¬ p.Lacks args.length) : Applied (fun _ => True) (p.Own limit m args) p args :=
  ⟨p.ownAdmits, fun v _ => v.withinAny, fun lacks => absurd lacks accepted⟩

namespace Library

variable {ev : Evaluator} {args : List Value} {own : Fault → Prop}

/-- Any arguments, of a primitive whose own faults these are. -/
abbrev Free (own : Fault → Prop) (p : Primitive) (args : List Value) : Prop :=
  Applied (fun _ => True) own p args

section Shortage

variable {asks : Run Value → Prop}
  (short : ∀ fault : HostFault, fault.IsShortage → own (.host fault))
include short

theorem missingRelays : Relays own asks (Run.ofExcept missing : Run Value) :=
  .yields (yieldsMissing short : Yields own (fun _ => True) missing)

theorem noFirstRelays : Relays own asks (Run.ofExcept noFirst : Run Value) :=
  .yields (yieldsNoFirst short : Yields own (fun _ => True) noFirst)

theorem noPairRelays (got : Nat) : Relays own asks (Run.ofExcept (noPair got) : Run Value) :=
  .yields (yieldsNoPair short got : Yields own (fun _ => True) (noPair got))

end Shortage

theorem conditionalRelays (call : Free own .conditional args) :
    Relays own (ev.Asks .conditional args) (conditional ev args) := by
  cases args with
  | nil => exact missingRelays (call.lacks (by simp [Primitive.Lacks]))
  | cons condition branches =>
    refine (Relays.asked (.branch (.head _))).bind fun v =>
      (Relays.yields (Value.yieldsBool call.admits v.withinAny)).bind fun taken => ?_
    cases taken with
    | true =>
      cases branches with
      | nil => exact missingRelays (call.lacks (by simp [Primitive.Lacks]))
      | cons form _ => exact .asked (.branch (.tail _ (.head _)))
    | false =>
      rcases branches with _ | ⟨_, _ | ⟨form, _⟩⟩
      · exact .pure _
      · exact .pure _
      · exact .asked (.branch (.tail _ (.tail _ (.head _))))

theorem bindOneRelays (admits : Admits (fun _ => True) own) {items body : List Value}
    {binding : Value} (member : binding ∈ items) :
    Relays own (ev.Asks .letIn (.list items :: body)) (bindOne ev binding) := by
  refine .project (Value.yieldsList admits binding.withinAny) fun pair listed => ?_
  cases Value.asListGives listed
  match pair with
  | [name, form] =>
    refine .project (Value.yieldsSymbol admits name.withinAny) fun x named => ?_
    cases Value.asSymbolGives named
    exact (Relays.asked (.binding member)).bind fun v => .bindLocal x v
  | [] | [_] | _ :: _ :: _ :: _ =>
    exact .ofExcept fun _ same => by cases same; exact admits.language _

theorem letInRelays (call : Free own .letIn args) :
    Relays own (ev.Asks .letIn args) (letIn ev args) := by
  cases args with
  | nil => exact noFirstRelays (call.lacks rfl)
  | cons bindings body =>
    refine .project (Value.yieldsList call.admits bindings.withinAny) fun items listed => ?_
    cases Value.asListGives listed
    exact (Relays.forM fun _ member => bindOneRelays call.admits member).bind
      fun _ => .evalBody fun _ => .body

theorem evaluateRelays (call : Free own .evaluate args) :
    Relays own (ev.Asks .evaluate args) (evaluate ev args) := by
  cases args with
  | nil => exact missingRelays (call.lacks rfl)
  | cons v rest => exact .asked (.again v rest)

theorem mapRelays (call : Free own .map args) : Relays own (ev.Asks .map args) (map ev args) := by
  match args with
  | [f, vs] =>
    refine .project (Value.yieldsList call.admits vs.withinAny) fun items listed => ?_
    cases Value.asListGives listed
    exact (Relays.mapM fun _ member => .asked (.map member)).bind
      fun results => .pure (Value.list results)
  | [] | [_] | _ :: _ :: _ :: _ => exact noPairRelays (call.lacks (by simp [Primitive.Lacks])) _

theorem keepRelays {asks : Run Value → Prop} (admits : Admits (fun _ => True) own)
    (f : Value) {vs : List Value} (each : ∀ v ∈ vs, asks (ev.call f [v])) :
    Relays own asks (keep ev f vs) := by
  induction vs with
  | nil => exact .pure []
  | cons v vs ih =>
    obtain ⟨here, there⟩ := List.forall_mem_cons.1 each
    exact (Relays.asked here).bind fun answer =>
      (Relays.yields (Value.yieldsBool admits answer.withinAny)).bind fun kept =>
        (ih there).bind fun rest => .pure (if kept then v :: rest else rest)

theorem filterRelays (call : Free own .filter args) :
    Relays own (ev.Asks .filter args) (filter ev args) := by
  match args with
  | [f, vs] =>
    refine .project (Value.yieldsList call.admits vs.withinAny) fun items listed => ?_
    cases Value.asListGives listed
    exact (keepRelays call.admits f fun _ => .filter).bind fun kept => .pure (Value.list kept)
  | [] | [_] | _ :: _ :: _ :: _ => exact noPairRelays (call.lacks (by simp [Primitive.Lacks])) _

theorem applyRelays (call : Free own .apply args) :
    Relays own (ev.Asks .apply args) (apply ev args) := by
  match args with
  | [f, vs] =>
    exact .project (Value.yieldsListOrNil call.admits vs.withinAny) fun _ listed =>
      .asked (.apply listed)
  | [] | [_] | _ :: _ :: _ :: _ => exact noPairRelays (call.lacks (by simp [Primitive.Lacks])) _

variable {S : HostError → Prop}

theorem onlyDefining (name : String) (v : Value) :
    Only own S (do Run.define name v; return Value.nil) := fun _ inside => ⟨trivial, inside⟩

theorem defineFails (call : Free own .define args) (m : Machine) :
    Fails own (ev.Asks .define args) (define ev args) m := by
  match args with
  | [] => exact (missingRelays (call.lacks rfl)).fails m
  | target :: rest =>
    cases target with
    | symbol name =>
      match rest with
      | [form] =>
        exact (Relays.asked (.definition name form)).bindFails
          (fun v _ => (onlyDefining name v).fails) m
      | [] | _ :: _ :: _ => exact (Only.fail (call.admits.language _)).fails
    | list signature =>
      cases signature with
      | nil => exact (Only.fail (call.admits.language _)).fails
      | cons name params =>
        have names := Yields.mapM fun v (_ : v ∈ params) =>
          Value.yieldsSymbol call.admits v.withinAny
        exact ((Only.yields (Value.yieldsSymbol call.admits name.withinAny)).bind fun name =>
          (Only.yields names).bind fun params => onlyDefining name (.lambda params rest)).fails
    | _ => exact (Only.fail (call.admits.language _)).fails

theorem onlyNumeric {f : List Number → Except Fault Number} (admits : Admits (fun _ => True) own)
    (each : ∀ xs, xs.length = args.length → Yields own (fun _ => True) (f xs)) :
    Only own S (numeric f args) :=
  (Only.yields (yieldsNumbers admits (fun v _ => v.withinAny) each)).bind fun x => .ofNumber x

section Streams

variable {p : Primitive} (call : Free own p args) (raised : ∀ e, S e → own (.host (.raised e)))
include call raised

theorem onlyPrint {limit : Nat} (deep : ∀ v ∈ args, limit < v.nesting → own (.host .tooDeep)) :
    Only own S (print limit args) :=
  (Only.yields (yieldsShown deep Value.source)).bind fun _ =>
    (Only.request call.admits.language raised _).bind fun _ => .pure _

theorem onlyInput : Only own S (input args) := by
  have language := call.admits.language
  have prompted : Only own S (prompt args) := by
    cases args with
    | nil => exact .pure ()
    | cons v _ =>
      exact (Only.yields (Value.yieldsText call.admits v.withinAny)).bind fun text =>
        (Only.request language raised _).bind fun _ => .request language raised _
  refine prompted.bind fun _ => (Only.readLine language raised).bind fun line => ?_
  split
  · exact .fail (language _)
  · split <;> exact .pure _

end Streams

theorem onlyExit (call : Free own .exit args) (code : ∀ code, own (.host (.exit code)))
    (infinite : own (.host .integerOfInfinity)) (undefined : own (.host .integerOfNaN)) :
    Only own S (exit args) :=
  (Only.yields (yieldsExitCode call infinite undefined)).bind fun n => .fail (code n)

end Library

open Library in
theorem Evaluator.performFails (ev : Evaluator) {p : Primitive} {args : List Value} (m : Machine)
    (accepted : ¬ p.Lacks args.length) (standard : ∀ h, p ≠ .host h) :
    Fails (p.Own ev.host.nesting m args) (ev.Asks p args) (ev.perform args p) m := by
  have call : Applied _ (p.Own ev.host.nesting m args) p args := p.ownApplied accepted
  cases p with
  | define => exact defineFails call m
  | conditional => exact (conditionalRelays call).fails m
  | letIn => exact (letInRelays call).fails m
  | evaluate => exact (evaluateRelays call).fails m
  | map => exact (mapRelays call).fails m
  | filter => exact (filterRelays call).fails m
  | apply => exact (applyRelays call).fails m
  | lambdaOf => exact (Only.yields (yieldsLambdaOf call)).fails
  | quoteOf => exact (Only.yields (yieldsQuoteOf call)).fails
  | sequence | listOf => exact (Only.pure _).fails
  | add => exact (onlyNumeric call.admits fun xs _ => yieldsAdd (fun c => .inl (.sum c)) xs).fails
  | subtract =>
    exact (onlyNumeric call.admits fun xs length =>
      yieldsSubtract fun none => call.lacks (length ▸ none)).fails
  | multiply => exact Only.fails (onlyNumeric call.admits fun _ _ => trivial)
  | divide =>
    exact (onlyNumeric call.admits fun xs length =>
      yieldsDivide call.admits fun none => call.lacks (length ▸ none)).fails
  | power =>
    exact (onlyNumeric call.admits fun xs length =>
      yieldsPower call.admits fun other => call.lacks (length ▸ other)).fails
  | modulo =>
    exact (onlyNumeric call.admits fun xs length =>
      yieldsModulo call.admits fun other => call.lacks (length ▸ other)).fails
  | equal => exact (Only.yields (yieldsEqual call)).fails
  | notEqual => exact (Only.yields (yieldsNotEqual call)).fails
  | less | lessEqual | greater | greaterEqual =>
    exact (Only.yields (yieldsCompared call.admits call.within _)).fails
  | conjunction => exact (Only.yields (yieldsConjunction call)).fails
  | disjunction => exact (Only.yields (yieldsDisjunction call)).fails
  | negation => exact (Only.yields (yieldsNegation call)).fails
  | cons => exact (Only.yields (yieldsCons call)).fails
  | head => exact (Only.yields (yieldsHead call)).fails
  | tail => exact (Only.yields (yieldsTail call)).fails
  | length => exact (Only.yields (yieldsLength call)).fails
  | nth => exact (Only.yields (yieldsNth call)).fails
  | append => exact (Only.yields (yieldsAppend call)).fails
  | reverse => exact (Only.yields (yieldsReverse call)).fails
  | concat =>
    have deep : ∀ v ∈ args, ev.host.nesting < v.nesting →
        Primitive.Own ev.host.nesting m args .concat (.host .tooDeep) :=
      fun v member deep => .inr (.shown member deep)
    exact (Only.yields (yieldsConcat deep : Yields _ (·.Within fun _ => True) _)).fails
  | textLength => exact (Only.yields (yieldsTextLength call)).fails
  | substring => exact (Only.yields (yieldsSubstring call)).fails
  | symbolOf =>
    exact (Only.yields (yieldsSymbolOf call fun _ _ _ first => .inr (.uninterned first))).fails
  | typeOf => exact (Only.yields (yieldsTypeOf call)).fails
  | print =>
    exact (onlyPrint call (fun e raises => .inr (.written raises))
      fun v member deep => .inr (.printed member deep)).fails
  | input => exact (onlyInput call fun e raises => .inr (.asked raises)).fails
  | exit =>
    exact (onlyExit call (fun code => .inl (.exit code)) (.inl .infinite) (.inl .undefined)).fails
  | host h => exact absurd rfl (standard h)

def Value.IsNonzero (v : Value) : Prop := ∃ x, v = .number x ∧ x.isZero = false

namespace Library

theorem divideByGives {x y q : Number} (gave : divideBy x y = .ok q) : y.isZero = false := by
  unfold divideBy at gave
  split at gave
  · cases gave
  · rename_i other
    exact Bool.not_eq_true _ ▸ other

theorem foldDivideGives {x q : Number} {ys : List Number} (gave : ys.foldlM divideBy x = .ok q) :
    ∀ y ∈ ys, y.isZero = false := by
  induction ys generalizing x with
  | nil => exact nofun
  | cons y ys ih =>
    rw [List.foldlM_cons] at gave
    cases first : divideBy x y with
    | error fault => rw [first] at gave; cases gave
    | ok between =>
      rw [first] at gave
      exact List.forall_mem_cons.2 ⟨divideByGives first, ih gave⟩

theorem divideGives {xs : List Number} {q : Number} (gave : divide xs = .ok q) :
    ∀ d ∈ Primitive.divide.divisors (xs.map .number), d.IsNonzero := by
  match xs with
  | [] => exact nofun
  | [x] => exact List.forall_mem_singleton.2 ⟨x, rfl, divideByGives gave⟩
  | x :: y :: ys =>
    exact List.forall_mem_map.2 fun z member => ⟨z, rfl, foldDivideGives gave z member⟩

theorem moduloGives {xs : List Number} {r : Number} (gave : modulo xs = .ok r) :
    ∀ d ∈ Primitive.modulo.divisors (xs.map .number), d.IsNonzero := by
  match xs with
  | [x, d] =>
    simp only [modulo] at gave
    split at gave
    · cases gave
    · rename_i other
      exact List.forall_mem_singleton.2 ⟨d, rfl, Bool.not_eq_true _ ▸ other⟩
  | [] | [_] | _ :: _ :: _ :: _ => cases gave

theorem numericGives {f : List Number → Except Fault Number} {args : List Value} {v : Value}
    {m after : Machine} (gave : (numeric f args).exec m = (.ok v, after)) :
    ∃ xs x, args = xs.map .number ∧ f xs = .ok x := by
  have stops {fault : Fault} (refused : (do f (← args.mapM Value.asNumber)) = .error fault) :
      (numeric f args).exec m = (.error fault, m) := execBindError (congrArg (·, m) refused)
  cases read : args.mapM Value.asNumber with
  | error fault => cases (stops (by rw [read]; rfl)).symm.trans gave
  | ok xs =>
    cases result : f xs with
    | error fault => cases (stops (by rw [read]; exact result)).symm.trans gave
    | ok x => exact ⟨xs, x, Value.projectedAll Value.asNumberGives read, result⟩

end Library

theorem Evaluator.performDivisors {ev : Evaluator} {p : Primitive} {args : List Value} {v : Value}
    {m after : Machine} (gave : (ev.perform args p).exec m = (.ok v, after)) :
    ∀ d ∈ p.divisors args, d.IsNonzero := by
  cases p with
  | divide =>
    obtain ⟨xs, q, rfl, divided⟩ := Library.numericGives gave
    exact Library.divideGives divided
  | modulo =>
    obtain ⟨xs, r, rfl, divided⟩ := Library.numericGives gave
    exact Library.moduloGives divided
  | _ => exact nofun

end DynLisp
