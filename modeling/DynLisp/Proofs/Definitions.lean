import DynLisp.Proofs.Atomicity
import DynLisp.Proofs.LambdaText
import Mathlib.Data.List.Nodup

/-! Definitions of functions. To make a function reads nothing from the scopes, and a definition
binds one name, so that definitions of different names may come in any order: the bindings stand
in another order then, which no look-up tells. Nor does any program, since evaluation sees of the
scopes only what names resolve to. -/

namespace DynLisp

open Evaluator Run

structure Definition where
  name : String
  params : List String
  body : List Value
  nonempty : body ≠ []

namespace Definition

def function (d : Definition) : Value := .lambda d.params d.body

def binding (d : Definition) : String × Value := (d.name, d.function)

/-- `(define (name params...) body...)`. -/
def form (d : Definition) : Value :=
  .list (.symbol "define" :: .list (.symbol d.name :: d.params.map .symbol) :: d.body)

/-- `(define name (lambda (params...) body...))`. -/
def lambdaForm (d : Definition) : Value :=
  .list [.symbol "define", .symbol d.name, Value.lambdaCall d.params d.body]

/-- What a call of `define` does once it has a name and a function for it. -/
def bind (d : Definition) : Run Value := do
  Run.define d.name d.function
  return .nil

end Definition

namespace ScopeStack

theorem depthBindAll (s : ScopeStack) (pairs : List (String × Value)) :
    (s.bindAll pairs).depth = s.depth := by
  induction pairs generalizing s with
  | nil => rfl
  | cons p pairs ih => exact (ih _).trans (depthBindLocal s p.1 p.2)

theorem lookupBindAll (s : ScopeStack) (pairs : List (String × Value)) (name : String) :
    (s.bindAll pairs).lookup? name =
      pairs.foldl (fun found p => if name == p.1 then some p.2 else found) (s.lookup? name) := by
  induction pairs generalizing s with
  | nil => rfl
  | cons p pairs ih =>
    rw [List.foldl_cons, ← lookupBindLocal]
    exact ih _

/-- Bindings of different names may be made in any order. -/
theorem lookupReordered (s : ScopeStack) {pairs others : List (String × Value)}
    (distinct : (pairs.map Prod.fst).Nodup) (reordered : others.Perm pairs) (name : String) :
    (s.bindAll others).lookup? name = (s.bindAll pairs).lookup? name := by
  rw [lookupBindAll, lookupBindAll]
  refine reordered.foldl_eq' (fun p left q right found => ?_) _
  have keys : p.1 = q.1 → p = q :=
    List.inj_on_of_nodup_map distinct (reordered.subset left) (reordered.subset right)
  by_cases there : name = q.1
  · by_cases here : name = p.1
    · rw [keys (here.symm.trans there)]
    · simp only [beq_false_of_ne here, Bool.false_eq_true, if_false]
  · simp only [beq_false_of_ne there, Bool.false_eq_true, if_false]

end ScopeStack

/-- After a definition, which is also noted in the log. -/
def Machine.defining (m : Machine) (d : Definition) : Machine :=
  { m with
    stack := m.stack.bindLocal d.name d.function
    log := m.log ++ [.define d.name (m.stack.depth - 1)] }

theorem Machine.Knows.defining {name : String} {ds : List Definition}
    (free : name ∉ ds.map Definition.name) (m : Machine) (knows : m.Knows name) (d : Definition)
    (member : d ∈ ds) : (m.defining d).Knows name := by
  have other : name ≠ d.name := fun same => free (same ▸ List.mem_map_of_mem member)
  refine (ScopeStack.lookupBindLocal m.stack d.name name d.function).trans ?_
  rwa [if_neg (by simpa using other)]

section

variable (host : Host) {m : Machine} (defines : m.Knows "define")
include defines

/-- A call of `define` that comes to bind the function does nothing else. -/
theorem evalDefine (n : Nat) (d : Definition) {args : List Value} (accepted : 2 ≤ args.length)
    (binds : (Library.define (atDepth host (n + 1)) args).exec { m with stack := m.stack.enter } =
      d.bind.exec { m with stack := m.stack.enter }) :
    ((atDepth host (n + 2)).eval (.list (.symbol "define" :: args))).exec m =
      (.ok .nil, m.defining d) := by
  have fit : Arity.accepts (.atLeast 2) args.length = true := decide_eq_true accepted
  have call : (atDepth host (n + 2)).eval (.list (Library.named "define" :: args)) =
      inScope (Library.define (atDepth host (n + 1)) args) := congrArg inScope (if_pos fit)
  have left : (d.bind.exec { m with stack := m.stack.enter }).2.stack.leave? =
      some (m.stack.bindLocal d.name d.function) := ScopeStack.leaveBindAbove (.refl _) _ _
  rw [evalNamedCall host n defines]
  refine (congrArg (·.exec m) call).trans ?_
  simp only [execInScope, binds, left]
  rfl

theorem evalDefinition (n : Nat) (d : Definition) :
    ((atDepth host (n + 2)).eval d.form).exec m = (.ok .nil, m.defining d) := by
  refine evalDefine host defines n d (Nat.succ_le_succ (List.length_pos_iff.2 d.nonempty)) ?_
  show ((Run.ofExcept ((d.params.map Value.symbol).mapM Value.asSymbol) >>= _ : Run Value).exec _) = _
  rw [asSymbols]
  rfl

theorem evalLambdaDefinition (n : Nat) (d : Definition) (makes : m.Knows "lambda") :
    ((atDepth host (n + 3)).eval d.lambdaForm).exec m = (.ok .nil, m.defining d) := by
  -- The argument is evaluated in the scope of the call, which hides no name.
  let inside : Machine := { m with stack := m.stack.enter }
  have found : inside.Knows "lambda" := makes
  have argument : ((atDepth host (n + 2)).eval (Value.lambdaCall d.params d.body)).exec inside =
      (.ok d.function, inside) :=
    (evalNamedCall host n found _).trans
      (congrArg (·.exec inside) (evalLambdaForm host n d.params d.body))
  exact evalDefine host defines (n + 1) d (Nat.le_refl 2) (execBindOk argument)

end

namespace Definition

/-- The forms that make the definition; the second takes `lambda` for the library's. -/
def Written (d : Definition) (form : Value) : Prop := form = d.form ∨ form = d.lambdaForm

theorem formsWritten (ds : List Definition) :
    List.Forall₂ (fun d form => form = d.form) ds (ds.map form) := by
  rw [List.forall₂_map_right_iff, List.forall₂_same]
  exact fun _ _ => rfl

end Definition

/-- What names resolve to is the same, and so is what the host holds. -/
def Machine.Alike (m m' : Machine) : Prop :=
  m.Corresponds (.inside (fun _ => True) fun _ => True) m'

/-- The functions of the host see of the scopes how many there are and what names resolve to. -/
def Host.SeesScopes (host : Host) : Prop :=
  ∀ f, host.FunctionFollows (.inside (fun _ => True) fun _ => True) host f

theorem Machine.Alike.noting {m m' : Machine} (alike : m.Alike m') (fault : Fault) :
    (m.noting fault).Alike (m'.noting fault) := by
  cases fault with
  | lisp e => exact ⟨alike.stack, alike.input, alike.output, alike.nextMark, alike.raises⟩
  | host fault => exact alike

def Machine.definingAll (m : Machine) (ds : List Definition) : Machine := ds.foldl defining m

section

variable {m : Machine} {ds es : List Definition}

/-- Of forms that define in every machine with `I`, which their definitions keep. -/
theorem definitionsRun (host : Host) {I : Machine → Prop} {R : Definition → Value → Prop}
    {forms : List Value}
    (defines : ∀ m d form, I m → R d form →
      (host.evaluator.eval form).exec m = (.ok .nil, m.defining d))
    (kept : ∀ m, I m → ∀ d ∈ ds, I (m.defining d)) (holds : I m)
    (written : List.Forall₂ R ds forms) :
    (forms.foldlM (fun _ form => Run.topLevel host form) .nil).exec m =
      (.ok .nil, m.definingAll ds) := by
  induction written generalizing m with
  | nil => rfl
  | @cons d form ds forms here _ ih =>
    rw [List.foldlM_cons, execBindOk (topLevelGives (defines m d form holds here))]
    exact ih (fun m holds d member => kept m holds d (.tail _ member)) (kept m holds d (.head _))

theorem stackDefiningAll (m : Machine) (ds : List Definition) :
    (m.definingAll ds).stack = m.stack.bindAll (ds.map Definition.binding) := by
  induction ds generalizing m with
  | nil => rfl
  | cons d ds ih => exact ih (m.defining d)

theorem hostDefiningAll (m : Machine) (ds : List Definition) :
    (m.definingAll ds).input = m.input ∧ (m.definingAll ds).output = m.output ∧
      (m.definingAll ds).nextMark = m.nextMark := by
  induction ds generalizing m with
  | nil => exact ⟨rfl, rfl, rfl⟩
  | cons d ds ih => exact ih (m.defining d)

theorem reorderedAlike (distinct : (ds.map Definition.name).Nodup) (reordered : es.Perm ds) :
    (m.definingAll es).Alike (m.definingAll ds) := by
  have keys : ((ds.map Definition.binding).map Prod.fst).Nodup := by rwa [List.map_map]
  have alike (name : String) :
      (m.definingAll es).stack.lookup? name = (m.definingAll ds).stack.lookup? name := by
    rw [stackDefiningAll, stackDefiningAll]
    exact ScopeStack.lookupReordered m.stack keys (reordered.map _) name
  obtain ⟨input, output, nextMark⟩ := hostDefiningAll m es
  obtain ⟨input', output', nextMark'⟩ := hostDefiningAll m ds
  refine ⟨⟨fun name v found => ⟨alike name ▸ found, v.withinAny⟩,
    fun name absent => .inl (alike name ▸ absent), fun _ => ?_⟩,
    input.trans input'.symm, output.trans output'.symm, nextMark.trans nextMark'.symm,
    fun _ _ => trivial⟩
  rw [stackDefiningAll, stackDefiningAll, ScopeStack.depthBindAll, ScopeStack.depthBindAll]

end

namespace Run

variable {α β : Type} {m m' : Machine}

/-- Machines that are alike are not told apart. -/
def Oblivious (r : Run α) : Prop :=
  ∀ m m', Machine.Alike m m' →
    (r.exec m).1 = (r.exec m').1 ∧ (r.exec m).2.Alike (r.exec m').2

namespace Oblivious

theorem ofExcept (result : Except Fault α) : (Run.ofExcept result).Oblivious :=
  fun _ _ alike => ⟨rfl, alike⟩

theorem bind {r : Run α} {next : α → Run β} (first : r.Oblivious)
    (rest : ∀ a, (next a).Oblivious) : (r >>= next).Oblivious := by
  intro m m' alike
  obtain ⟨result, alike⟩ := first m m' alike
  rcases here : r.exec m with ⟨given, after⟩
  rcases there : r.exec m' with ⟨given', after'⟩
  rw [here, there] at result alike
  cases (result : given = given')
  cases given with
  | ok a =>
    rw [execBindOk here, execBindOk there]
    exact rest a after after' alike
  | error fault =>
    rw [execBindError here, execBindError there]
    exact ⟨rfl, alike⟩

theorem foldlM {f : β → α → Run β} (each : ∀ b a, (f b a).Oblivious) (as : List α) (b : β) :
    (as.foldlM f b).Oblivious := by
  induction as generalizing b with
  | nil => exact ofExcept (.ok b)
  | cons a as ih => exact Oblivious.bind (each b a) ih

variable {host : Host} (sees : host.SeesScopes)
include sees

theorem eval (form : Value) : (host.evaluator.eval form).Oblivious := by
  intro m m' alike
  have follows : host.Follows (.inside (fun _ => True) fun _ => True) host :=
    ⟨fun _ f _ _ => sees f, rfl⟩
  rcases (followsEval follows host.depth form.withinAny).inner m m' alike with ⟨_, _, none, _⟩ | agree
  · exact none.elim
  · exact ⟨agree.result, agree.corresponds alike⟩

theorem topLevel (form : Value) : (Run.topLevel host form).Oblivious := by
  intro m m' alike
  obtain ⟨result, alike⟩ := eval sees form m m' alike
  rcases here : (host.evaluator.eval form).exec m with ⟨given, after⟩
  rcases there : (host.evaluator.eval form).exec m' with ⟨given', after'⟩
  rw [here, there] at result alike
  cases (result : given = given')
  cases given with
  | ok v =>
    rw [topLevelGives here, topLevelGives there]
    exact ⟨rfl, alike⟩
  | error fault =>
    rw [topLevelRaises here, topLevelRaises there]
    exact ⟨rfl, alike.noting fault⟩

theorem source (settings : Settings) (code : Source) :
    (Run.source host settings code).Oblivious :=
  bind (ofExcept _) fun _ => bind (ofExcept _) fun forms =>
    foldlM (fun _ form => topLevel sees form) forms .nil

end Oblivious

end Run

namespace Session

/-- The forms are evaluated as those of one source. -/
def evalForms (s : Session) (forms : List Value) : Answer Value :=
  s.run (forms.foldlM (fun _ form => Run.topLevel s.host form) .nil)

theorem evalFormsText {s : Session} {text : String} {forms : List Value}
    (read : Form.parse text = .ok forms) : s.eval (.text text) = s.evalForms forms :=
  evalParsed read

/-- Sources one after another, whether they fail or not, with what each of them gave. -/
def evalAll (s : Session) : List Source → List (Except Fault Value) × Session
  | [] => ([], s)
  | code :: codes =>
    let (result, next) := s.eval code
    let (results, last) := next.evalAll codes
    (result :: results, last)

theorem evalAllAlike {s t : Session} (sees : t.host.SeesScopes)
    (settings : s.settings = t.settings) (host : s.host = t.host)
    (alike : s.machine.Alike t.machine) (codes : List Source) :
    (s.evalAll codes).1 = (t.evalAll codes).1 ∧
      (s.evalAll codes).2.machine.Alike (t.evalAll codes).2.machine := by
  induction codes generalizing s t with
  | nil => exact ⟨rfl, alike⟩
  | cons code codes ih =>
    have next : (s.eval code).1 = (t.eval code).1 ∧
        (s.eval code).2.machine.Alike (t.eval code).2.machine := by
      rw [eval, eval, settings, host]
      exact Run.Oblivious.source sees t.settings code _ _ alike
    obtain ⟨rest, last⟩ := ih (s := (s.eval code).2) (t := (t.eval code).2) sees settings host next.2
    exact ⟨List.cons_eq_cons.2 ⟨next.1, rest⟩, last⟩

variable {s : Session} {ds es : List Definition}

section

variable (deep : 3 ≤ s.host.depth)
include deep

theorem evalDefinitions (defines : s.machine.Knows "define")
    (free : "define" ∉ ds.map Definition.name) :
    s.evalForms (ds.map Definition.form) =
      (.ok .nil, { s with machine := s.machine.definingAll ds }) := by
  obtain ⟨n, depth⟩ := Nat.exists_eq_add_of_le' deep
  have ended := definitionsRun s.host (I := (·.Knows "define")) (R := fun d form => form = d.form)
    (fun m d form knows here => by
      rw [Host.evaluator, depth, here]
      exact evalDefinition s.host knows (n + 1) d)
    (Machine.Knows.defining free) defines (Definition.formsWritten ds)
  simp only [evalForms, run, ended]

theorem evalWritten (defines : s.machine.Knows "define") (makes : s.machine.Knows "lambda")
    (free : "define" ∉ ds.map Definition.name) (freeToo : "lambda" ∉ ds.map Definition.name)
    {forms : List Value} (written : List.Forall₂ Definition.Written ds forms) :
    s.evalForms forms = (.ok .nil, { s with machine := s.machine.definingAll ds }) := by
  obtain ⟨n, depth⟩ := Nat.exists_eq_add_of_le' deep
  have ended := definitionsRun s.host (I := fun m => m.Knows "define" ∧ m.Knows "lambda")
    (fun m d form knows here => by
      rw [Host.evaluator, depth]
      exact here.elim (· ▸ evalDefinition s.host knows.1 (n + 1) d)
        (· ▸ evalLambdaDefinition s.host knows.1 n d knows.2))
    (fun m knows d member =>
      ⟨.defining free m knows.1 d member, .defining freeToo m knows.2 d member⟩)
    ⟨defines, makes⟩ written
  simp only [evalForms, run, ended]

end

/-- Definitions of different functions may be made in any order: no program that is evaluated after
them sees which it was. Each may also be written as the binding of a lambda, and leaves the session as
it does otherwise. -/
theorem definitionsCommute (sees : s.host.SeesScopes) (deep : 3 ≤ s.host.depth)
    (defines : s.machine.Knows "define")
    (free : "define" ∉ ds.map Definition.name) (distinct : (ds.map Definition.name).Nodup)
    (reordered : es.Perm ds) :
    let first := s.evalForms (ds.map Definition.form)
    let second := s.evalForms (es.map Definition.form)
    (first.1 = .ok .nil ∧ second.1 = .ok .nil) ∧
    (∀ codes, let ended := first.2.evalAll codes
      let other := second.2.evalAll codes
      other.1 = ended.1 ∧ other.2.machine.input = ended.2.machine.input ∧
        other.2.machine.output = ended.2.machine.output) ∧
    (s.machine.Knows "lambda" → "lambda" ∉ ds.map Definition.name →
      ∀ forms, List.Forall₂ Definition.Written ds forms → s.evalForms forms = first) := by
  intro first second
  have names : (es.map Definition.name).Perm (ds.map Definition.name) := reordered.map _
  have made : first = _ := evalDefinitions deep defines free
  have madeToo : second = _ := evalDefinitions deep defines fun member => free (names.subset member)
  rw [made, madeToo]
  refine ⟨⟨rfl, rfl⟩, fun codes => ?_, fun makes freeToo forms written => ?_⟩
  · have alike : (s.machine.definingAll es).Alike (s.machine.definingAll ds) :=
      reorderedAlike distinct reordered
    obtain ⟨results, alike⟩ := evalAllAlike (s := { s with machine := s.machine.definingAll es })
      (t := { s with machine := s.machine.definingAll ds }) sees rfl rfl alike codes
    exact ⟨results, alike.input, alike.output⟩
  · exact evalWritten deep defines makes free freeToo written

theorem calleeDefinedLast :
    let s := fresh (.callBack 400 400) ⟨[]⟩ (.ofText "" .newline) .empty
    let caller : Definition := ⟨"f", ["x"], [.list [.symbol "g", .symbol "x"]], List.cons_ne_nil _ _⟩
    let callee : Definition := ⟨"g", ["x"], [.symbol "x"], List.cons_ne_nil _ _⟩
    let first := s.evalForms [callee.form, caller.form]
    let second := s.evalForms [caller.form, callee.form]
    first.2.machine.stack.globals.names ≠ second.2.machine.stack.globals.names ∧
      (second.2.evalAll [.text "(f 'a)"]).1 = [.ok (.symbol "a")] ∧
      (first.2.evalAll [.text "(f 'a)"]).1 = [.ok (.symbol "a")] ∧
      s.eval (.text "(define g (lambda (x) x)) (define (f x) (g x))") = first := by
  intro s caller callee first second
  have swapped : [caller, callee].Perm [callee, caller] := .swap _ _ _
  have sees : s.host.SeesScopes := Host.callBackFunctionFollows 400 400
  obtain ⟨_, programs, lambdas⟩ :=
    definitionsCommute (s := s) sees (by decide) rfl (by decide) (by decide) swapped
  have read : Form.parse "(f 'a)" = .ok [.list [.symbol "f", .quote (.symbol "a")]] := by
    have tokens : lex "(f 'a)" = [⟨.openList, "("⟩, ⟨.symbol, "f"⟩, ⟨.quote, "'"⟩, ⟨.symbol, "a"⟩,
        ⟨.closeList, ")"⟩] := by decide +kernel
    rw [Form.parseLex, tokens]
    rfl
  have called : (first.2.eval (.text "(f 'a)")).1 = .ok (.symbol "a") := by
    rw [evalParsed read]
    rfl
  have given : (first.2.evalAll [.text "(f 'a)"]).1 = [.ok (.symbol "a")] :=
    congrArg (fun result => [result]) called
  have written : Form.parse "(define g (lambda (x) x)) (define (f x) (g x))" =
      .ok [callee.lambdaForm, caller.form] := by
    have tokens : lex "(define g (lambda (x) x)) (define (f x) (g x))" = [⟨.openList, "("⟩,
        ⟨.symbol, "define"⟩, ⟨.symbol, "g"⟩, ⟨.openList, "("⟩, ⟨.symbol, "lambda"⟩, ⟨.openList, "("⟩,
        ⟨.symbol, "x"⟩, ⟨.closeList, ")"⟩, ⟨.symbol, "x"⟩, ⟨.closeList, ")"⟩, ⟨.closeList, ")"⟩,
        ⟨.openList, "("⟩, ⟨.symbol, "define"⟩, ⟨.openList, "("⟩, ⟨.symbol, "f"⟩, ⟨.symbol, "x"⟩,
        ⟨.closeList, ")"⟩, ⟨.openList, "("⟩, ⟨.symbol, "g"⟩, ⟨.symbol, "x"⟩, ⟨.closeList, ")"⟩,
        ⟨.closeList, ")"⟩] := by decide +kernel
    rw [Form.parseLex, tokens]
    rfl
  have last : first.2.machine.stack.globals.names.getLast? = some "f" := rfl
  have lastToo : second.2.machine.stack.globals.names.getLast? = some "g" := rfl
  refine ⟨?_, (programs _).1.trans given, given, ?_⟩
  · intro same
    rw [same, lastToo] at last
    exact absurd last (by decide)
  · rw [evalFormsText written]
    exact lambdas rfl (by decide) _ (.cons (.inr rfl) (.cons (.inl rfl) .nil))

end Session

end DynLisp
