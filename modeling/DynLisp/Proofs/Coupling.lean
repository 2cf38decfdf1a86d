import DynLisp.Proofs.LibraryOutcome
import DynLisp.Proofs.ScopeDiscipline

/-! Two runs side by side, from machines with different stacks. The first stack is
extended by the second: every name it resolves has the same value there. The runs then
do the same, bind the same names in the same order, and keep to the opaque values that
are admitted, unless the first one fails with a fault that is excused. The evaluators of
the two runs may differ as well, so long as one follows the other, and so may the hosts. -/

namespace DynLisp

open Value (Within atomWithin withinList withinQuote withinLambda withinBuiltin)

/-- What two runs side by side are held to. -/
structure Coupling where
  /-- Opaque values that may be met. -/
  admits : Value → Prop
  /-- Faults of the first run after which nothing is said of the second. -/
  excuses : Fault → Prop
  /-- Errors of the streams, other than those of the system. -/
  raises : HostError → Prop
  /-- There are as many scopes in the one stack as in the other. -/
  sameDepth : Prop

/-- Two runs that nothing tells apart, with opaque values in `P` and errors of the streams in `S`. -/
def Coupling.inside (P : Value → Prop) (S : HostError → Prop) : Coupling :=
  ⟨P, fun _ => False, S, True⟩

namespace ScopeStack

/-- What a run binds: names in the innermost scope, then at most one in the scope above it. -/
structure Change where
  bound : List (String × Value)
  above? : Option (String × Value)

def bindAll (s : ScopeStack) (pairs : List (String × Value)) : ScopeStack :=
  pairs.foldl (fun s (name, v) => s.bindLocal name v) s

def change (s : ScopeStack) (c : Change) : ScopeStack :=
  match c.above? with
  | none => s.bindAll c.bound
  | some (name, v) => (s.bindAll c.bound).bindAbove name v

namespace Change

def still : Change := ⟨[], none⟩

structure Within (P : Value → Prop) (c : Change) : Prop where
  bound : ∀ p ∈ c.bound, p.2.Within P
  above : ∀ p, c.above? = some p → p.2.Within P

theorem stillWithin {P : Value → Prop} : still.Within P := ⟨nofun, nofun⟩

end Change

/-- How far bindings may reach: one name in the innermost scope, any number of names there, and a
name above it besides. -/
inductive Reach where
  | single
  | inner
  | outer

def Reach.Allows : Reach → Change → Prop
  | single, c => c.above? = none ∧ c.bound.length ≤ 1
  | inner, c => c.above? = none
  | outer, _ => True

theorem Reach.allowsStill (reach : Reach) : reach.Allows .still := by
  cases reach <;> simp [Allows, Change.still]

theorem lookupBindLocal (s : ScopeStack) (name other : String) (v : Value) :
    (s.bindLocal name v).lookup? other = if other == name then some v else s.lookup? other := by
  obtain ⟨_ | ⟨inner, rest⟩, g⟩ := s
  · exact lookupAssign name other v g.bindings
  · simp only [bindLocal, lookup?, Scope.get?, Scope.set, lookupAssign, List.findSome?_cons]
    cases other == name <;> rfl

theorem depthBindLocal (s : ScopeStack) (name : String) (v : Value) :
    (s.bindLocal name v).depth = s.depth := by
  obtain ⟨_ | ⟨inner, rest⟩, g⟩ := s <;> rfl

theorem leaveChange (s : ScopeStack) (c : Change) :
    (s.enter.change c).leave? = some (s.bindAll c.above?.toList) := by
  obtain ⟨bound, _ | ⟨name, v⟩⟩ := c
  · exact leaveAgreeBelow (agreeBelowBindAll s.enter bound)
  · exact leaveBindAbove (agreeBelowBindAll s.enter bound) name v

/-- The second change does not begin above the innermost scope, so the first may not end there. -/
theorem changeChange (s : ScopeStack) {c : Change} (inner : c.above? = none) (d : Change) :
    (s.change c).change d = s.change ⟨c.bound ++ d.bound, d.above?⟩ := by
  obtain ⟨bound, _⟩ := c
  cases inner
  obtain ⟨more, _ | ⟨name, v⟩⟩ := d <;> simp only [change, bindAll, List.foldl_append]

theorem Change.Within.append {P : Value → Prop} {c d : Change} (first : c.Within P)
    (rest : d.Within P) : (⟨c.bound ++ d.bound, d.above?⟩ : Change).Within P :=
  ⟨List.forall_mem_append.2 ⟨first.bound, rest.bound⟩, rest.above⟩

section Extended

variable (C : Coupling)

structure Extended (s t : ScopeStack) : Prop where
  visible : ∀ name v, s.lookup? name = some v → t.lookup? name = some v ∧ v.Within C.admits
  hidden : ∀ name, s.lookup? name = none →
    t.lookup? name = none ∨ C.excuses (.lisp (.undeclared name))
  depth : C.sameDepth → s.depth = t.depth

variable {C} {s t : ScopeStack}

theorem Extended.enter (h : Extended C s t) : Extended C s.enter t.enter :=
  ⟨h.visible, h.hidden, fun alike => congrArg Nat.succ (h.depth alike)⟩

theorem Extended.bindLocal (h : Extended C s t) (name : String) {v : Value}
    (within : v.Within C.admits) : Extended C (s.bindLocal name v) (t.bindLocal name v) := by
  refine ⟨fun other w found => ?_, fun other absent => ?_, fun alike => ?_⟩
  · rw [lookupBindLocal] at found ⊢
    split at found
    · cases found
      exact ⟨if_pos ‹_›, within⟩
    · rw [if_neg ‹_›]
      exact h.visible other w found
  · rw [lookupBindLocal] at absent ⊢
    split at absent
    · cases absent
    · rw [if_neg ‹_›]
      exact h.hidden other absent
  · rw [depthBindLocal, depthBindLocal]
    exact h.depth alike

theorem Extended.bindAll (h : Extended C s t) {pairs : List (String × Value)}
    (within : ∀ p ∈ pairs, p.2.Within C.admits) : Extended C (s.bindAll pairs) (t.bindAll pairs) := by
  induction pairs generalizing s t with
  | nil => exact h
  | cons p pairs ih =>
    obtain ⟨here, there⟩ := List.forall_mem_cons.1 within
    exact ih (h.bindLocal p.1 here) there

end Extended

end ScopeStack

open ScopeStack (Change Reach Extended)

/-- The faults of a run that meets only opaque values and stream errors which the coupling allows. A
function of the host may raise any. -/
inductive Fault.Permitted (C : Coupling) : Fault → Prop where
  | lisp {e} (offends : ∀ v, (Fault.lisp e).offending? = some v → v.Within C.admits) :
      Permitted C (.lisp e)
  | sum (cause) : Permitted C (.host (.sum cause))
  | exit (code) : Permitted C (.host (.exit code))
  | integerOfInfinity : Permitted C (.host .integerOfInfinity)
  | integerOfNaN : Permitted C (.host .integerOfNaN)
  | tooDeep : Permitted C (.host .tooDeep)
  | raised {e} (raises : C.raises e) : Permitted C (.host (.raised e))
  | uninterned {s typeName} (admitted : C.admits (.derivedText s typeName)) :
      Permitted C (.host (.uninterned typeName))
  | shortage {f fault} (admitted : C.admits (.builtin f)) (unfit : ¬ f.Fits)
      (short : fault.IsShortage) : Permitted C (.host fault)
  | ofHost {f g fault} (admitted : C.admits (.builtin f)) (does : f.primitive = .host g) :
      Permitted C (.host fault)

theorem permittedAdmits {C : Coupling} : Admits C.admits (Fault.Permitted C) := ⟨fun _ => .lisp⟩

section

variable (C : Coupling)

structure Machine.Corresponds (m m' : Machine) : Prop where
  stack : Extended C m.stack m'.stack
  input : m.input = m'.input
  output : m.output = m'.output
  nextMark : m.nextMark = m'.nextMark
  raises : ∀ e, m.Raises e → C.raises e

namespace Run

variable {α : Type} (reach : Reach) (Q : α → Prop)

structure Agree (m m' : Machine) (ended ended' : Except Fault α × Machine) : Prop where
  result : ended.1 = ended'.1
  yields : Yields (Fault.Permitted C) Q ended.1
  input : ended.2.input = ended'.2.input
  output : ended.2.output = ended'.2.output
  nextMark : ended.2.nextMark = ended'.2.nextMark
  raises : ∀ e, ended.2.Raises e → C.raises e
  change : ∃ c, reach.Allows c ∧ c.Within C.admits ∧ ended.2.stack = m.stack.change c ∧
    ended'.2.stack = m'.stack.change c
  /-- From one and the same machine the runs agree in everything, their logs included. -/
  same : m = m' → ended.2 = ended'.2

inductive Ends (m m' : Machine) (ended ended' : Except Fault α × Machine) : Prop where
  | excused (fault : Fault) (failed : ended.1 = .error fault) (excuse : C.excuses fault) (c : Change)
      (allowed : reach.Allows c) (stack : ended.2.stack = m.stack.change c)
  | agree (h : Agree C reach Q m m' ended ended')

def Follows (r r' : Run α) : Prop :=
  ∀ m m', Machine.Corresponds C m m' → Ends C reach Q m m' (r.exec m) (r'.exec m')

end Run

end

section

variable {C : Coupling} {m m' : Machine}

theorem Machine.Corresponds.enter (h : m.Corresponds C m') :
    Corresponds C { m with stack := m.stack.enter } { m' with stack := m'.stack.enter } :=
  ⟨h.stack.enter, h.input, h.output, h.nextMark, h.raises⟩

namespace Run

variable {α β : Type} {reach : Reach} {Q : α → Prop} {R : β → Prop}

theorem Agree.corresponds {ended ended' : Except Fault α × Machine} (before : m.Corresponds C m')
    (h : Agree C .inner Q m m' ended ended') : ended.2.Corresponds C ended'.2 := by
  obtain ⟨⟨bound, _⟩, rfl, within, stack, stack'⟩ := h.change
  refine ⟨?_, h.input, h.output, h.nextMark, h.raises⟩
  rw [stack, stack']
  exact before.stack.bindAll within.bound

theorem Agree.single {ended ended' : Except Fault α × Machine}
    (h : Agree C .single Q m m' ended ended') :
    (ended.2.stack = m.stack ∧ ended'.2.stack = m'.stack) ∨
      ∃ name v, v.Within C.admits ∧ ended.2.stack = m.stack.bindLocal name v ∧
        ended'.2.stack = m'.stack.bindLocal name v := by
  obtain ⟨⟨bound, _⟩, ⟨rfl, short⟩, within, stack, stack'⟩ := h.change
  match bound with
  | [] => exact .inl ⟨stack, stack'⟩
  | [p] => exact .inr ⟨p.1, p.2, within.bound p (.head _), stack, stack'⟩
  | _ :: _ :: _ => simp at short

theorem Agree.host {result : Except Fault α} {after after' : Machine}
    (yields : Yields (Fault.Permitted C) Q result) (stack : after.stack = m.stack)
    (stack' : after'.stack = m'.stack) (input : after.input = after'.input)
    (output : after.output = after'.output) (nextMark : after.nextMark = after'.nextMark)
    (raises : ∀ e, after.Raises e → C.raises e) (one : m = m' → after = after') :
    Agree C reach Q m m' (result, after) (result, after') where
  result := rfl
  yields := yields
  input := input
  output := output
  nextMark := nextMark
  raises := raises
  change := ⟨.still, reach.allowsStill, Change.stillWithin, stack, stack'⟩
  same := one

theorem Agree.stay (same : m.Corresponds C m') {result : Except Fault α}
    (yields : Yields (Fault.Permitted C) Q result) :
    Agree C reach Q m m' (result, m) (result, m') :=
  .host yields rfl rfl same.input same.output same.nextMark same.raises id

theorem permittedRefusal (inside : ∀ e, m.Raises e → C.raises e) {result : Except Fault α}
    (refuses : ∀ fault, result = .error fault → m.Refuses fault) :
    Yields (Fault.Permitted C) (fun _ => True) result := by
  cases result with
  | ok a => trivial
  | error fault =>
    cases refuses fault rfl with
    | system message => exact .lisp nofun
    | other raises => exact .raised (inside _ raises)

namespace Follows

theorem ofExcept {result : Except Fault α} (yields : Yields (Fault.Permitted C) Q result) :
    Follows C reach Q (Run.ofExcept result) (Run.ofExcept result) :=
  fun _ _ same => .agree (.stay same yields)

theorem pure {a : α} (holds : Q a) : Follows C reach Q (Pure.pure a) (Pure.pure a) :=
  fun _ _ same => .agree (.stay same holds)

theorem fail {fault : Fault} (permitted : fault.Permitted C) :
    Follows C reach Q (Run.fail fault) (Run.fail fault) :=
  fun _ _ same => .agree (.stay same permitted)

theorem widen {wider : Reach} {r r' : Run α} (h : Follows C reach Q r r')
    (allows : ∀ c, reach.Allows c → wider.Allows c) : Follows C wider Q r r' := by
  intro m m' same
  rcases h m m' same with ⟨fault, failed, excuse, c, allowed, stack⟩ | agree
  · exact .excused fault failed excuse c (allows c allowed) stack
  · obtain ⟨c, allowed, change⟩ := agree.change
    exact .agree { agree with change := ⟨c, allows c allowed, change⟩ }

theorem inner {r r' : Run α} (h : Follows C .single Q r r') : Follows C .inner Q r r' :=
  h.widen fun _ allowed => allowed.1

theorem outer {r r' : Run α} (h : Follows C .inner Q r r') : Follows C .outer Q r r' :=
  h.widen fun _ _ => trivial

theorem bindWide {r r' : Run α} {next next' : α → Run β} (first : Follows C .inner Q r r')
    (rest : ∀ a, Q a → Follows C reach R (next a) (next' a)) (wide : reach ≠ .single) :
    Follows C reach R (r >>= next) (r' >>= next') := by
  have reached {c : Change} (inner : c.above? = none) {d : Change} (allowed : reach.Allows d) :
      reach.Allows ⟨c.bound ++ d.bound, d.above?⟩ := by
    cases reach with
    | single => exact absurd rfl wide
    | inner => exact allowed
    | outer => trivial
  have alone {c : Change} (inner : c.above? = none) : reach.Allows c := by
    simpa [Change.still, ← inner] using reached inner reach.allowsStill
  intro m m' same
  have begun := first m m' same
  rcases h : r.exec m with ⟨result, after⟩
  rcases h' : r'.exec m' with ⟨result', after'⟩
  rw [h, h'] at begun
  rcases begun with ⟨fault, failed, excuse, c, inner, stack⟩ | agree
  · cases failed
    rw [execBindError h]
    exact .excused fault rfl excuse c (alone inner) stack
  obtain ⟨c, inner, within, stack, stack'⟩ := agree.change
  cases agree.result
  cases result with
  | error fault =>
    rw [execBindError h, execBindError h']
    exact .agree { agree with
      result := rfl
      yields := agree.yields
      change := ⟨c, alone inner, within, stack, stack'⟩ }
  | ok a =>
    rw [execBindOk h, execBindOk h']
    rcases rest a agree.yields after after' (agree.corresponds same) with
      ⟨fault, failed, excuse, d, allowed, last⟩ | ended
    · refine .excused fault failed excuse _ (reached inner allowed) ?_
      rw [last, stack, ScopeStack.changeChange _ inner]
    · obtain ⟨d, allowed, more, last, last'⟩ := ended.change
      refine .agree { ended with
        change := ⟨_, reached inner allowed, within.append more, ?_, ?_⟩
        same := fun eq => ended.same (agree.same eq) }
      · rw [last, stack, ScopeStack.changeChange _ inner]
      · rw [last', stack', ScopeStack.changeChange _ inner]

theorem bind {r r' : Run α} {next next' : α → Run β} (first : Follows C .inner Q r r')
    (rest : ∀ a, Q a → Follows C .inner R (next a) (next' a)) :
    Follows C .inner R (r >>= next) (r' >>= next') :=
  bindWide first rest nofun

theorem bindOuter {r r' : Run α} {next next' : α → Run β} (first : Follows C .inner Q r r')
    (rest : ∀ a, Q a → Follows C .outer R (next a) (next' a)) :
    Follows C .outer R (r >>= next) (r' >>= next') :=
  bindWide first rest nofun

theorem mapM {f f' : α → Run β} {as : List α}
    (each : ∀ a ∈ as, Follows C .inner R (f a) (f' a)) :
    Follows C .inner (fun bs => ∀ b ∈ bs, R b) (as.mapM f) (as.mapM f') := by
  induction as with
  | nil => exact pure nofun
  | cons a as ih =>
    obtain ⟨here, there⟩ := List.forall_mem_cons.1 each
    rw [List.mapM_cons, List.mapM_cons]
    exact here.bind fun b first => (ih there).bind fun bs rest =>
      pure (List.forall_mem_cons.2 ⟨first, rest⟩)

theorem forM {f f' : α → Run Unit} {as : List α}
    (each : ∀ a ∈ as, Follows C .inner (fun _ => True) (f a) (f' a)) :
    Follows C .inner (fun _ => True) (as.forM f) (as.forM f') := by
  induction as with
  | nil => exact pure trivial
  | cons a as ih =>
    obtain ⟨here, there⟩ := List.forall_mem_cons.1 each
    exact here.bind fun _ _ => ih there

theorem foldlM {f f' : β → α → Run β} {as : List α}
    (each : ∀ b, ∀ a ∈ as, Follows C .inner R (f b a) (f' b a)) {b : β} (start : R b) :
    Follows C .inner R (as.foldlM f b) (as.foldlM f' b) := by
  induction as generalizing b with
  | nil => exact pure start
  | cons a as ih =>
    rw [List.foldlM_cons, List.foldlM_cons]
    exact (each b a (.head _)).bind fun c first =>
      ih (fun b a member => each b a (.tail _ member)) first

theorem onStack {c : Change} (allowed : reach.Allows c) (within : c.Within C.admits) :
    Follows C reach (fun _ => True) (Run.onStack (·.change c)) (Run.onStack (·.change c)) := by
  intro m m' same
  exact .agree {
    result := rfl
    yields := trivial
    input := same.input
    output := same.output
    nextMark := same.nextMark
    raises := same.raises
    change := ⟨c, allowed, within, rfl, rfl⟩
    same := by rintro rfl; rfl }

theorem bindAll {pairs : List (String × Value)} (within : ∀ p ∈ pairs, p.2.Within C.admits) :
    Follows C .inner (fun _ => True) (Run.onStack (·.bindAll pairs))
      (Run.onStack (·.bindAll pairs)) := by
  have allowed : Reach.Allows .inner ⟨pairs, none⟩ := rfl
  exact onStack allowed ⟨within, nofun⟩

theorem bindLocal (name : String) {v : Value} (within : v.Within C.admits) :
    Follows C .inner (fun _ => True) (Run.onStack (·.bindLocal name v))
      (Run.onStack (·.bindLocal name v)) :=
  bindAll (List.forall_mem_singleton.2 within : ∀ p ∈ [(name, v)], p.2.Within C.admits)

theorem define (name : String) {v : Value} (within : v.Within C.admits) :
    Follows C .outer (Within C.admits) (do Run.define name v; return .nil)
      (do Run.define name v; return .nil) := by
  intro m m' same
  exact .agree {
    result := rfl
    yields := atomWithin trivial
    input := same.input
    output := same.output
    nextMark := same.nextMark
    raises := same.raises
    change := ⟨⟨[], some (name, v)⟩, trivial, ⟨nofun, by rintro p ⟨⟩; exact within⟩, rfl, rfl⟩
    same := by rintro rfl; rfl }

theorem lookup (name : String) :
    Follows C reach (Within C.admits) (Run.lookup name) (Run.lookup name) := by
  intro m m' same
  rw [execLookup, execLookup]
  cases found : m.stack.lookup? name with
  | some v =>
    obtain ⟨found', within⟩ := same.stack.visible name v found
    rw [found']
    exact .agree (.stay same within)
  | none =>
    rcases same.stack.hidden name found with absent | excuse
    · rw [absent]
      exact .agree (.stay same (.lisp nofun))
    · exact .excused _ rfl excuse .still reach.allowsStill rfl

theorem ofNumber (x : Number) :
    Follows C reach (Within C.admits) (Run.ofNumber x) (Run.ofNumber x) := by
  intro m m' same
  rw [execOfNumber, execOfNumber, ← same.nextMark]
  split
  · exact .agree (.host (atomWithin trivial) rfl rfl same.input same.output rfl same.raises
      (by rintro rfl; rfl))
  · exact .agree (.stay same (atomWithin trivial))

theorem request (r : OutputRequest) :
    Follows C reach (fun _ => True) (Run.request r) (Run.request r) := by
  intro m m' same
  have yields : Yields (Fault.Permitted C) (fun _ => True) ((Run.request r).exec m).1 :=
    permittedRefusal same.raises fun _ => requestRefused
  have raises : ∀ e, ((Run.request r).exec m).2.Raises e → C.raises e :=
    fun e raised => same.raises e (requestRaises raised)
  rw [execRequest] at yields raises ⊢
  rw [execRequest, ← same.output]
  exact .agree (.host yields rfl rfl same.input rfl same.nextMark raises (by rintro rfl; rfl))

theorem readLine : Follows C reach (fun _ => True) Run.readLine Run.readLine := by
  intro m m' same
  have yields : Yields (Fault.Permitted C) (fun _ => True) (Run.readLine.exec m).1 :=
    permittedRefusal same.raises fun _ => readLineRefused
  have raises : ∀ e, (Run.readLine.exec m).2.Raises e → C.raises e :=
    fun e raised => same.raises e (readLineRaises raised)
  rw [execReadLine] at yields raises ⊢
  rw [execReadLine, ← same.input]
  exact .agree (.host yields rfl rfl rfl same.output same.nextMark raises (by rintro rfl; rfl))

theorem inScope {body body' : Run α} (h : Follows C .outer Q body body') :
    Follows C .single Q (Run.inScope body) (Run.inScope body') := by
  intro m m' same
  have single (c : Change) : Reach.Allows .single ⟨c.above?.toList, none⟩ :=
    ⟨rfl, by cases c.above? <;> simp⟩
  rcases h _ _ same.enter with ⟨fault, failed, excuse, c, _, stack⟩ | agree
  · refine .excused fault ?_ excuse ⟨c.above?.toList, none⟩ (single c) ?_ <;>
      simp only [execInScope, stack, ScopeStack.leaveChange]
    · exact failed
    · rfl
  · obtain ⟨c, _, within, stack, stack'⟩ := agree.change
    refine .agree ?_
    simp only [execInScope, stack, stack', ScopeStack.leaveChange]
    exact {
      result := agree.result
      yields := agree.yields
      input := agree.input
      output := agree.output
      nextMark := agree.nextMark
      raises := agree.raises
      change := ⟨_, single c, ⟨fun p member => within.above p (by simpa using member), nofun⟩, rfl, rfl⟩
      same := by
        rintro rfl
        rw [agree.same rfl] }

end Follows

end Run

end

open Run

structure Caller.Follows (C : Coupling) (c c' : Caller) : Prop where
  eval : ∀ e, e.Within C.admits → Run.Follows C .inner (Within C.admits) (c.eval e) (c'.eval e)
  call : ∀ f args, f.Within C.admits → (∀ v ∈ args, v.Within C.admits) →
    Run.Follows C .inner (Within C.admits) (c.call f args) (c'.call f args)

/-- Given evaluators of which one follows the other, so does the function of the one host that of the
other. -/
def Host.FunctionFollows (C : Coupling) (host host' : Host) (f : HostFunction) : Prop :=
  ∀ c c' : Caller, c.Follows C c' → ∀ args, (∀ v ∈ args, v.Within C.admits) →
    Run.Follows C .inner (Within C.admits) (host.function f c args) (host'.function f c' args)

/-- Only functions matter that admitted builtins stand for. -/
structure Host.Follows (C : Coupling) (host host' : Host) : Prop where
  function : ∀ b f, C.admits (.builtin b) → b.primitive = .host f → host.FunctionFollows C host' f
  nesting : host.nesting = host'.nesting

structure Evaluator.Follows (C : Coupling) (ev ev' : Evaluator) : Prop
    extends Caller.Follows C ev.toCaller ev'.toCaller where
  host : ev.host.Follows C ev'.host

variable {C : Coupling} {ev ev' : Evaluator} {args : List Value}

theorem Host.callBackFunctionFollows (nesting depth : Nat) (f : HostFunction) :
    (Host.callBack nesting depth).FunctionFollows C (Host.callBack nesting depth) f := by
  intro c c' follows args within
  have rest : ∀ v ∈ args.tail, v.Within C.admits :=
    fun v member => within v (List.mem_of_mem_tail member)
  cases args with
  | nil => exact follows.call .nil [] (atomWithin trivial) rest
  | cons f vs => exact follows.call f vs (within f (.head _)) rest

theorem Host.callBackFollows (nesting depth : Nat) :
    (Host.callBack nesting depth).Follows C (Host.callBack nesting depth) where
  function _ f _ _ := callBackFunctionFollows nesting depth f
  nesting := rfl

abbrev Called (C : Coupling) (p : Primitive) (args : List Value) : Prop :=
  Applied C.admits (Fault.Permitted C) p args

theorem Evaluator.Follows.evalBody (h : ev.Follows C ev') {forms : List Value}
    (within : ∀ v ∈ forms, v.Within C.admits) :
    Run.Follows C .inner (Within C.admits) (ev.evalBody forms) (ev'.evalBody forms) :=
  .foldlM (fun _ form member => h.eval form (within form member)) (atomWithin trivial)

namespace Library

theorem followsNumeric (within : ∀ v ∈ args, v.Within C.admits) {f : List Number → Except Fault Number}
    (each : ∀ xs, xs.length = args.length → Yields (Fault.Permitted C) (fun _ => True) (f xs)) :
    Run.Follows C .inner (Within C.admits) (numeric f args) (numeric f args) :=
  (Run.Follows.ofExcept (yieldsNumbers permittedAdmits within each)).bind fun x _ => .ofNumber x

theorem followsPrint {limit limit' : Nat} (same : limit = limit') :
    Run.Follows C .inner (Within C.admits) (print limit args) (print limit' args) :=
  same ▸ (Run.Follows.ofExcept (yieldsShown (fun _ _ _ => .tooDeep) _)).bind fun _ _ =>
    (Run.Follows.request _).bind fun _ _ => .pure (atomWithin trivial)

theorem followsConcat {limit limit' : Nat} (same : limit = limit') :
    Run.Follows C .inner (Within C.admits) (Run.ofExcept (concat limit args))
      (Run.ofExcept (concat limit' args)) :=
  same ▸ .ofExcept (yieldsConcat fun _ _ _ => .tooDeep)

theorem followsPrompt (within : ∀ v ∈ args, v.Within C.admits) :
    Run.Follows C .inner (fun _ => True) (prompt args) (prompt args) := by
  cases args with
  | nil => exact .pure trivial
  | cons v _ =>
    exact (Run.Follows.ofExcept (Value.yieldsText permittedAdmits (within v (.head _)))).bind
      fun text _ => (Run.Follows.request _).bind fun _ _ => .request _

theorem followsInput (within : ∀ v ∈ args, v.Within C.admits) :
    Run.Follows C .inner (Within C.admits) (input args) (input args) := by
  refine (followsPrompt within).bind fun _ _ => Run.Follows.readLine.bind fun line _ => ?_
  split
  · exact .fail (.lisp nofun)
  · split <;> exact .pure (atomWithin trivial)

theorem followsExit (call : Called C .exit args) :
    Run.Follows C .inner (Within C.admits) (exit args) (exit args) :=
  (Run.Follows.ofExcept (yieldsExitCode call .integerOfInfinity .integerOfNaN)).bind
    fun _ _ => .fail (.exit _)

theorem followsConditional (h : ev.Follows C ev') (call : Called C .conditional args) :
    Run.Follows C .inner (Within C.admits) (conditional ev args) (conditional ev' args) := by
  cases args with
  | nil => exact .ofExcept (yieldsMissing (call.lacks (by simp [Primitive.Lacks])))
  | cons condition branches =>
    obtain ⟨first, rest⟩ := List.forall_mem_cons.1 call.within
    refine (h.eval condition first).bind fun v within =>
      (Run.Follows.ofExcept (Value.yieldsBool permittedAdmits within)).bind fun taken _ => ?_
    cases taken with
    | true =>
      cases branches with
      | nil => exact .ofExcept (yieldsMissing (call.lacks (by simp [Primitive.Lacks])))
      | cons form _ => exact h.eval form (rest form (.head _))
    | false =>
      rcases branches with _ | ⟨_, _ | ⟨form, _⟩⟩
      · exact .pure (atomWithin trivial)
      · exact .pure (atomWithin trivial)
      · exact h.eval form (rest form (.tail _ (.head _)))

theorem followsBindOne (h : ev.Follows C ev') {binding : Value} (within : binding.Within C.admits) :
    Run.Follows C .inner (fun _ => True) (bindOne ev binding) (bindOne ev' binding) := by
  refine (Run.Follows.ofExcept (Value.yieldsList permittedAdmits within)).bind fun pair inside => ?_
  match pair with
  | [name, form] =>
    have ⟨first, second⟩ := List.forall_mem_cons.1 inside
    exact (Run.Follows.ofExcept (Value.yieldsSymbol permittedAdmits first)).bind fun name _ =>
      (h.eval form (second form (.head _))).bind fun v within => .bindLocal name within
  | [] | [_] | _ :: _ :: _ :: _ => exact .fail (.lisp nofun)

theorem followsLetIn (h : ev.Follows C ev') (call : Called C .letIn args) :
    Run.Follows C .inner (Within C.admits) (letIn ev args) (letIn ev' args) := by
  cases args with
  | nil => exact .ofExcept (yieldsNoFirst (call.lacks rfl))
  | cons bindings body =>
    have ⟨first, forms⟩ := List.forall_mem_cons.1 call.within
    exact (Run.Follows.ofExcept (Value.yieldsList permittedAdmits first)).bind fun items inside =>
      (Run.Follows.forM fun v member => followsBindOne h (inside v member)).bind fun _ _ =>
        h.evalBody forms

theorem followsEvaluate (h : ev.Follows C ev') (call : Called C .evaluate args) :
    Run.Follows C .inner (Within C.admits) (evaluate ev args) (evaluate ev' args) := by
  cases args with
  | nil => exact .ofExcept (yieldsMissing (call.lacks rfl))
  | cons v _ => exact h.eval v (call.within v (.head _))

theorem followsMap (h : ev.Follows C ev') (call : Called C .map args) :
    Run.Follows C .inner (Within C.admits) (map ev args) (map ev' args) := by
  match args with
  | [f, vs] =>
    have ⟨function, list⟩ := List.forall_mem_cons.1 call.within
    exact (Run.Follows.ofExcept (Value.yieldsList permittedAdmits (list vs (.head _)))).bind
      fun items inside =>
        (Run.Follows.mapM fun v member =>
          h.call f [v] function (List.forall_mem_singleton.2 (inside v member))).bind
        fun _ results => .pure (withinList.2 results)
  | [] | [_] | _ :: _ :: _ :: _ => exact .ofExcept (yieldsNoPair (call.lacks (by simp [Primitive.Lacks])) _)

theorem followsKeep (h : ev.Follows C ev') {f : Value} (function : f.Within C.admits) {vs : List Value}
    (within : ∀ v ∈ vs, v.Within C.admits) :
    Run.Follows C .inner (fun kept => ∀ v ∈ kept, v.Within C.admits) (keep ev f vs) (keep ev' f vs) := by
  induction vs with
  | nil => exact .pure nofun
  | cons v vs ih =>
    have ⟨here, there⟩ := List.forall_mem_cons.1 within
    refine (h.call f [v] function (List.forall_mem_singleton.2 here)).bind fun answer inside =>
      (Run.Follows.ofExcept (Value.yieldsBool permittedAdmits inside)).bind fun kept _ =>
        (ih there).bind fun rest others => .pure ?_
    cases kept with
    | true => exact List.forall_mem_cons.2 ⟨here, others⟩
    | false => exact others

theorem followsFilter (h : ev.Follows C ev') (call : Called C .filter args) :
    Run.Follows C .inner (Within C.admits) (filter ev args) (filter ev' args) := by
  match args with
  | [f, vs] =>
    have ⟨function, list⟩ := List.forall_mem_cons.1 call.within
    exact (Run.Follows.ofExcept (Value.yieldsList permittedAdmits (list vs (.head _)))).bind
      fun items inside => (followsKeep h function inside).bind
        fun _ results => .pure (withinList.2 results)
  | [] | [_] | _ :: _ :: _ :: _ => exact .ofExcept (yieldsNoPair (call.lacks (by simp [Primitive.Lacks])) _)

theorem followsApply (h : ev.Follows C ev') (call : Called C .apply args) :
    Run.Follows C .inner (Within C.admits) (apply ev args) (apply ev' args) := by
  match args with
  | [f, vs] =>
    have ⟨function, list⟩ := List.forall_mem_cons.1 call.within
    exact (Run.Follows.ofExcept (Value.yieldsListOrNil permittedAdmits (list vs (.head _)))).bind
      fun items inside => h.call f items function inside
  | [] | [_] | _ :: _ :: _ :: _ => exact .ofExcept (yieldsNoPair (call.lacks (by simp [Primitive.Lacks])) _)

theorem followsSymbolOf (call : Called C .symbolOf args) :
    Run.Follows C .inner (Within C.admits) (Run.ofExcept (symbolOf args))
      (Run.ofExcept (symbolOf args)) := by
  refine .ofExcept (yieldsSymbolOf call fun s typeName rest same => ?_)
  have within := call.within (.derivedText s typeName) (same ▸ .head _)
  exact .uninterned (within _ .here trivial)

theorem followsDefine (h : ev.Follows C ev') (call : Called C .define args) :
    Run.Follows C .outer (Within C.admits) (Library.define ev args) (Library.define ev' args) := by
  match args with
  | [] => exact .ofExcept (yieldsMissing (call.lacks rfl))
  | target :: rest =>
    have ⟨first, forms⟩ := List.forall_mem_cons.1 call.within
    cases target with
    | symbol name =>
      match rest with
      | [form] => exact (h.eval form (forms form (.head _))).bindOuter fun v => .define name
      | [] | _ :: _ :: _ => exact .fail (.lisp nofun)
    | list signature =>
      cases signature with
      | nil => exact .ofExcept (Value.yieldsMismatch permittedAdmits first _)
      | cons name params =>
        have ⟨here, there⟩ := List.forall_mem_cons.1 (withinList.1 first)
        have names := Yields.mapM fun v member =>
          Value.yieldsSymbol permittedAdmits (there v member)
        exact (Run.Follows.ofExcept (Value.yieldsSymbol permittedAdmits here)).bindOuter
          fun name _ => (Run.Follows.ofExcept names).bindOuter
            fun params _ => .define name (withinLambda.2 forms)
    | _ => exact .ofExcept (Value.yieldsMismatch permittedAdmits first _)

end Library

namespace Evaluator

open Library

theorem followsPerform (h : ev.Follows C ev') {f : Builtin} (admitted : C.admits (.builtin f))
    {p : Primitive} (does : f.primitive = p) (other : p ≠ .define) (call : Called C p args) :
    Run.Follows C .inner (Within C.admits) (ev.perform args p) (ev'.perform args p) := by
  cases p with
  | define => exact absurd rfl other
  | conditional => exact followsConditional h call
  | letIn => exact followsLetIn h call
  | lambdaOf => exact .ofExcept (yieldsLambdaOf call)
  | quoteOf => exact .ofExcept (yieldsQuoteOf call)
  | evaluate => exact followsEvaluate h call
  | sequence => exact .pure (withinSequence call.within)
  | add => exact followsNumeric call.within fun xs _ => yieldsAdd .sum xs
  | subtract =>
    exact followsNumeric call.within fun xs length =>
      yieldsSubtract fun none => call.lacks (length ▸ none)
  | multiply => exact followsNumeric call.within fun _ _ => trivial
  | divide =>
    exact followsNumeric call.within fun xs length =>
      yieldsDivide permittedAdmits fun none => call.lacks (length ▸ none)
  | power =>
    exact followsNumeric call.within fun xs length =>
      yieldsPower permittedAdmits fun other => call.lacks (length ▸ other)
  | modulo =>
    exact followsNumeric call.within fun xs length =>
      yieldsModulo permittedAdmits fun other => call.lacks (length ▸ other)
  | equal => exact .ofExcept (yieldsEqual call)
  | notEqual => exact .ofExcept (yieldsNotEqual call)
  | less | lessEqual | greater | greaterEqual =>
    exact .ofExcept (yieldsCompared permittedAdmits call.within _)
  | conjunction => exact .ofExcept (yieldsConjunction call)
  | disjunction => exact .ofExcept (yieldsDisjunction call)
  | negation => exact .ofExcept (yieldsNegation call)
  | listOf => exact .pure (withinList.2 call.within)
  | cons => exact .ofExcept (yieldsCons call)
  | head => exact .ofExcept (yieldsHead call)
  | tail => exact .ofExcept (yieldsTail call)
  | length => exact .ofExcept (yieldsLength call)
  | nth => exact .ofExcept (yieldsNth call)
  | append => exact .ofExcept (yieldsAppend call)
  | reverse => exact .ofExcept (yieldsReverse call)
  | map => exact followsMap h call
  | filter => exact followsFilter h call
  | apply => exact followsApply h call
  | concat => exact followsConcat h.host.nesting
  | textLength => exact .ofExcept (yieldsTextLength call)
  | substring => exact .ofExcept (yieldsSubstring call)
  | symbolOf => exact followsSymbolOf call
  | typeOf => exact .ofExcept (yieldsTypeOf call)
  | print => exact followsPrint h.host.nesting
  | input => exact followsInput call.within
  | exit => exact followsExit call
  | host g => exact h.host.function f g admitted does _ _ h.toFollows args call.within

theorem followsRunBuiltin (h : ev.Follows C ev') {f : Builtin} (admitted : C.admits (.builtin f))
    (within : ∀ v ∈ args, v.Within C.admits) :
    Run.Follows C .outer (Within C.admits) (ev.runBuiltin f args) (ev'.runBuiltin f args) := by
  unfold runBuiltin
  split
  · rename_i accepted
    -- An argument may be missing only to a builtin whose arity let the call through.
    have call : Called C f.primitive args :=
      ⟨permittedAdmits, within, fun lacks _ =>
        .shortage admitted fun fits => fits _ accepted lacks⟩
    by_cases defines : f.primitive = .define
    · rw [defines] at call ⊢
      exact followsDefine h call
    · exact (followsPerform h admitted rfl defines call).outer
  · exact .fail (.lisp nofun)

theorem followsRunLambda (h : ev.Follows C ev') {body : List Value} (params : List String)
    (forms : ∀ v ∈ body, v.Within C.admits) (within : ∀ v ∈ args, v.Within C.admits) :
    Run.Follows C .inner (Within C.admits) (ev.runLambda params body args)
      (ev'.runLambda params body args) :=
  (Run.Follows.bindAll fun p member => within p.2 (List.of_mem_zip member).2).bind
    fun _ _ => h.evalBody forms

theorem followsArguments (h : ev.Follows C ev') (f : Builtin) {forms : List Value}
    (within : ∀ v ∈ forms, v.Within C.admits) :
    Run.Follows C .inner (fun args => ∀ v ∈ args, v.Within C.admits) (ev.arguments f forms)
      (ev'.arguments f forms) := by
  unfold arguments
  split
  · exact .pure within
  · exact .mapM fun form member => h.eval form (within form member)

theorem followsFinishCall (h : ev.Follows C ev') {f : Value} (function : f.Within C.admits)
    {forms : List Value} (within : ∀ v ∈ forms, v.Within C.admits) :
    Run.Follows C .outer (Within C.admits) (ev.finishCall forms f) (ev'.finishCall forms f) := by
  cases f with
  | builtin f =>
    exact (followsArguments h f within).bindOuter fun args inside =>
      followsRunBuiltin h (withinBuiltin.1 function) inside
  | lambda params body =>
    dsimp only [finishCall]
    split
    · exact ((Run.Follows.mapM fun form member => h.eval form (within form member)).bind
        fun args inside => followsRunLambda h params (withinLambda.1 function) inside).outer
    · exact .fail (.lisp nofun)
  | _ => exact .fail (.lisp (by rintro v ⟨⟩; exact function))

theorem followsApplyForm (h : ev.Follows C ev') {head : Value} (first : head.Within C.admits)
    {forms : List Value} (within : ∀ v ∈ forms, v.Within C.admits) :
    Run.Follows C .outer (Within C.admits) (ev.applyForm head forms) (ev'.applyForm head forms) :=
  (h.eval head first).bindOuter fun _ function => followsFinishCall h function within

theorem followsApplyValues (h : ev.Follows C ev') {f : Value} (function : f.Within C.admits)
    (within : ∀ v ∈ args, v.Within C.admits) :
    Run.Follows C .outer (Within C.admits) (ev.applyValues f args) (ev'.applyValues f args) := by
  cases f with
  | builtin f =>
    dsimp only [applyValues]
    split
    · exact .fail (.lisp (by rintro v ⟨⟩; exact function))
    · exact followsRunBuiltin h (withinBuiltin.1 function) within
  | lambda params body =>
    dsimp only [applyValues]
    split
    · exact (followsRunLambda h params (withinLambda.1 function) within).outer
    · exact .fail (.lisp nofun)
  | _ => exact .fail (.lisp (by rintro v ⟨⟩; exact function))

theorem followsDeepenEval (h : ev.Follows C ev') {e : Value} (within : e.Within C.admits) :
    Run.Follows C .single (Within C.admits) (ev.deepen.eval e) (ev'.deepen.eval e) := by
  cases e with
  | symbol name => exact .lookup name
  | quote v => exact .pure (withinQuote.1 within)
  | hostQuote v mark => exact .pure within.held
  | list forms =>
    cases forms with
    | nil => exact .fail (.lisp nofun)
    | cons head forms =>
      have ⟨first, rest⟩ := List.forall_mem_cons.1 (withinList.1 within)
      exact .inScope (followsApplyForm h first rest)
  | _ => exact .pure within

theorem Follows.deepen (h : ev.Follows C ev') : ev.deepen.Follows C ev'.deepen where
  eval _ within := (followsDeepenEval h within).inner
  call _ _ function within := (Run.Follows.inScope (followsApplyValues h function within)).inner
  host := h.host

variable {host host' : Host}

theorem followsAtDepth (follows : host.Follows C host') (n : Nat) :
    (atDepth host n).Follows C (atDepth host' n) := by
  induction n with
  | zero => exact ⟨⟨fun _ _ => .fail .tooDeep, fun _ _ _ _ => .fail .tooDeep⟩, follows⟩
  | succ n ih => exact ih.deepen

/-- A greater depth is followed by a smaller one as far as the smaller one goes. -/
theorem followsDeeper (follows : host.Follows C host') (limited : C.excuses (.host .tooDeep))
    {n k : Nat} (deeper : n ≤ k) : (atDepth host n).Follows C (atDepth host' k) := by
  induction n generalizing k with
  | zero =>
    have excused (r : Run Value) :
        (Run.fail (.host .tooDeep)).Follows C .inner (Within C.admits) r :=
      fun _ _ _ => .excused _ rfl limited .still (Reach.allowsStill _) rfl
    exact ⟨⟨fun _ _ => excused _, fun _ _ _ _ => excused _⟩, (hostAtDepth host' k).symm ▸ follows⟩
  | succ n ih =>
    cases k with
    | zero => cases deeper
    | succ k => exact (ih (Nat.le_of_succ_le_succ deeper)).deepen

theorem followsEval (follows : host.Follows C host') (n : Nat) {e : Value}
    (within : e.Within C.admits) :
    Run.Follows C .single (Within C.admits) ((atDepth host n).eval e) ((atDepth host' n).eval e) := by
  cases n with
  | zero => exact .fail .tooDeep
  | succ n => exact followsDeepenEval (followsAtDepth follows n) within

end Evaluator

end DynLisp
