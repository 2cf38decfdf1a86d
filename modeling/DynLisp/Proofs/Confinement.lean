import DynLisp.Proofs.Coupling

/-! Evaluation makes no opaque value: a builtin, a wrapped object or an object of the host
that it shows, in a result, a fault or a scope, was in the form or in a scope before. So
a run that starts without objects of the host never meets a value without a type. What
functions of the host are called must make none either. -/

namespace DynLisp

open Evaluator
open Value (Within)

/-- What can be seen of a value after a run. -/
inductive Run.Shows (x : Value) : Except Fault Value × Machine → Prop where
  | result {v m} (inside : x.Occurs v) : Shows x (.ok v, m)
  | offending {fault v m} (offends : fault.offending? = some v) (inside : x.Occurs v) :
      Shows x (.error fault, m)
  | scopes {result m} (holds : m.stack.Holds x) : Shows x (result, m)

/-- The value itself if it has a type. -/
def Run.typed (alarm : Fault) (v : Value) : Run Value :=
  match Library.typeOf [v] with
  | .ok _ => return v
  | .error _ => fail alarm

namespace Evaluator

/-- Raises the alarm at the first value without a type that is returned, or that a function is
called with. Names are bound to such values only, and to new lambdas. -/
def typing (alarm : Fault) (ev : Evaluator) : Evaluator where
  eval e := do Run.typed alarm (← ev.eval e)
  call f args := do
    let args ← args.mapM (Run.typed alarm)
    Run.typed alarm (← ev.call f args)
  host := ev.host

def typingAtDepth (alarm : Fault) (host : Host) : Nat → Evaluator
  | 0 => exhausted host
  | n + 1 => ((typingAtDepth alarm host n).deepen).typing alarm

end Evaluator

/-- The function makes no opaque value, if the evaluator that it is given makes none. -/
def Host.Confines (host : Host) (f : HostFunction) : Prop :=
  ∀ P, host.FunctionFollows (.inside P fun _ => True) host f

def ScopeStack.Within (P : Value → Prop) (s : ScopeStack) : Prop := ∀ v, s.Binds v → v.Within P

section

variable {P : Value → Prop} {S : HostError → Prop} {host : Host} {m : Machine} {e : Value}

theorem permittedOffends {C : Coupling} {fault : Fault} (permitted : fault.Permitted C) {v : Value}
    (offends : fault.offending? = some v) : v.Within C.admits := by
  cases permitted with
  | lisp within => exact within v offends
  | _ => cases offends

theorem selfCorresponds (bound : m.stack.Within P) (raises : ∀ e, m.Raises e → S e) :
    m.Corresponds (.inside P S) m where
  stack :=
    { visible := fun _ v found => ⟨found, bound v (ScopeStack.lookupBinds found)⟩
      hidden := fun _ => .inl
      depth := fun _ => rfl }
  input := rfl
  output := rfl
  nextMark := rfl
  raises := raises

theorem evalWithin (follows : host.Follows (.inside P S) host) (n : Nat) (form : e.Within P)
    (bound : m.stack.Within P) (raises : ∀ e, m.Raises e → S e) :
    let ended := ((atDepth host n).eval e).exec m
    Yields (Fault.Permitted (.inside P S)) (Within P) ended.1 ∧ ended.2.stack.Within P ∧
      ∀ e, ended.2.Raises e → S e := by
  intro ended
  rcases followsEval follows n form m m (selfCorresponds bound raises) with ⟨_, _, none, _⟩ | agree
  · exact none.elim
  · refine ⟨agree.yields, ?_, agree.raises⟩
    rcases agree.single with ⟨same, _⟩ | ⟨name, v, within, stack, _⟩
    · rw [ScopeStack.Within, same]
      exact bound
    · rw [ScopeStack.Within, stack]
      intro w binds
      rcases ScopeStack.bindLocalBinds binds with rfl | before
      · exact within
      · exact bound w before

end

section Typing

variable {C : Coupling} {alarm : Fault} (clean : ∀ x, C.admits x → ¬ x.IsRaw)
include clean

theorem typeOfWithin {v : Value} (h : v.Within C.admits) :
    ∃ d, Library.typeOf [v] = .ok (.type d) := by
  obtain ⟨d, typed⟩ := Value.Within.typed fun x inside hidden => clean x (h x inside hidden)
  exact ⟨d, by simp only [Library.typeOf, typed]⟩

theorem typedReturns {v : Value} (h : v.Within C.admits) : Run.typed alarm v = pure v := by
  obtain ⟨d, typed⟩ := typeOfWithin clean h
  simp only [Run.typed, typed]

theorem typedReturnsAll {vs : List Value} (h : ∀ v ∈ vs, v.Within C.admits) :
    vs.mapM (Run.typed alarm) = pure vs := by
  induction vs with
  | nil => rfl
  | cons v vs ih =>
    obtain ⟨here, there⟩ := List.forall_mem_cons.1 h
    rw [List.mapM_cons, typedReturns clean here, ih there, pure_bind, pure_bind]

theorem typedFollows {r r' : Run Value} (h : r.Follows C .inner (Within C.admits) r') :
    r.Follows C .inner (Within C.admits) (r' >>= Run.typed alarm) := by
  rw [← bind_pure r]
  refine h.bind fun v within => ?_
  rw [typedReturns clean within]
  exact .pure within

theorem typingFollows {ev ev' : Evaluator} (h : ev.Follows C ev') :
    ev.Follows C (ev'.typing alarm) where
  eval e within := typedFollows clean (h.eval e within)
  call f args function within := by
    dsimp only [typing]
    rw [typedReturnsAll clean within, pure_bind]
    exact typedFollows clean (h.call f args function within)
  host := h.host

theorem typingFollowsAtDepth {host : Host} (follows : host.Follows C host) (n : Nat) :
    (atDepth host n).Follows C (typingAtDepth alarm host n) := by
  induction n with
  | zero => exact followsAtDepth follows 0
  | succ n ih => exact typingFollows clean ih.deepen

end Typing

/-- Evaluation forges nothing opaque; and if no object of the host is in its form or in the scopes,
then every value has a type that it returns or binds on its way, and in the end. -/
theorem evalForgesNothing {host : Host} (n : Nat) (e : Value) (m : Machine)
    (confined : ∀ b f, b.primitive = .host f →
      (Value.builtin b).Occurs e ∨ m.stack.Holds (.builtin b) → host.Confines f) :
    let ended := ((atDepth host n).eval e).exec m
    (∀ x, x.IsOpaque → Run.Shows x ended → x.Occurs e ∨ m.stack.Holds x) ∧
      ((∀ x, x.IsRaw → ¬ x.Occurs e ∧ ¬ m.stack.Holds x) →
        (∀ alarm, ((typingAtDepth alarm host n).eval e).exec m = ended) ∧
        (∀ v, ended.1 = .ok v → ∃ d, Library.typeOf [v] = .ok (.type d)) ∧
        ∀ v, ended.2.stack.Binds v → ∃ d, Library.typeOf [v] = .ok (.type d)) := by
  intro ended
  -- What was there before is an invariant of the run.
  let P : Value → Prop := fun x => x.Occurs e ∨ m.stack.Holds x
  let C : Coupling := .inside P fun _ => True
  have form : e.Within P := fun x inside _ => .inl inside
  have bound : m.stack.Within P := fun v binds x inside _ => .inr ⟨v, binds, inside⟩
  have follows : host.Follows C host := ⟨fun b f admitted does => confined b f does admitted P, rfl⟩
  have kept := evalWithin follows n form bound fun _ _ => trivial
  change Yields _ _ ended.1 ∧ ended.2.stack.Within P ∧ _ at kept
  constructor
  · intro x hidden shows
    generalize ended = given at shows kept
    cases shows with
    | result inside => exact kept.1 x inside hidden
    | offending offends inside => exact permittedOffends kept.1 offends x inside hidden
    | scopes holds =>
      obtain ⟨v, binds, inside⟩ := holds
      exact kept.2.1 v binds x inside hidden
  · intro none
    have clean : ∀ x, C.admits x → ¬ x.IsRaw :=
      fun x before raw => before.elim (none x raw).1 (none x raw).2
    refine ⟨fun alarm => ?_, fun v given => ?_, fun v binds => ?_⟩
    · have same : m.Corresponds C m := selfCorresponds bound fun _ _ => trivial
      rcases (typingFollowsAtDepth clean follows n).eval e form m m same with ⟨_, _, ⟨⟩, _⟩ | agree
      exact (Prod.ext agree.result (agree.same rfl)).symm
    · have result : Yields _ _ ended.1 := kept.1
      rw [given] at result
      exact typeOfWithin clean result
    · exact typeOfWithin clean (kept.2.1 v binds)

/-- A wrapped object, that a function of the host passes on. -/
theorem wrappedTravels :
    let host := Host.callBack 400 400
    let o : HostObject := ⟨0, .base 0 "Point" [], []⟩
    let m : Machine := ⟨⟨[], ⟨[("p", .foreign o 1)]⟩⟩, .ofText "" .newline, .empty, [], 0⟩
    let e : Value := .list [.builtin ⟨"call", .host ⟨0⟩, .any, false⟩,
      .builtin ⟨"list", .listOf, .any, false⟩, .symbol "p"]
    let ended := ((atDepth host 3).eval e).exec m
    ended.1 = .ok (.list [.foreign o 1]) ∧ m.stack.Holds (.foreign o 1) ∧
      (∀ alarm, ((typingAtDepth alarm host 3).eval e).exec m = ended) ∧
      ∃ d, Library.typeOf [.list [.foreign o 1]] = .ok (.type d) := by
  intro host o m e ended
  have form : e.Within fun x => ∃ f, x = .builtin f := by
    simp only [e, Value.withinList, List.forall_mem_cons, Value.withinBuiltin]
    exact ⟨⟨_, rfl⟩, ⟨_, rfl⟩, Value.atomWithin trivial, List.forall_mem_nil _⟩
  have bound : m.stack.Within fun x => x = .foreign o 1 := by
    rintro v ⟨scope, member, name, here⟩ x inside hidden
    cases List.mem_singleton.1 member
    cases List.mem_singleton.1 here
    cases inside
    rfl
  have clean : ∀ x : Value, x.IsRaw → ¬ x.Occurs e ∧ ¬ m.stack.Holds x := by
    refine fun x raw => ⟨fun inside => ?_, fun held => ?_⟩
    · obtain ⟨f, rfl⟩ := form x inside (Value.rawIsOpaque raw)
      exact raw
    · obtain ⟨v, binds, inside⟩ := held
      cases bound v binds x inside (Value.rawIsOpaque raw)
      exact raw
  obtain ⟨kept, typed⟩ := evalForgesNothing 3 e m
    fun _ f _ _ _ => Host.callBackFunctionFollows 400 400 f
  obtain ⟨same, result, _⟩ := typed clean
  have inside : Run.Shows (.foreign o 1) ended := .result (.item (.head _) .here)
  refine ⟨rfl, (kept _ (show (Value.foreign o 1).IsOpaque from trivial) inside).resolve_left ?_,
    same, result _ rfl⟩
  intro inForm
  obtain ⟨f, same⟩ := form _ inForm trivial
  cases same

end DynLisp
