import DynLisp.Proofs.Coupling

/-! Evaluation sees of a stack of scopes only which names it resolves, and to what. A
second stack that resolves the same names alike, and perhaps others, gives the same
evaluation, unless the first one fails at a name that only the second resolves. What
functions of the host are called must not look further. -/

namespace DynLisp

open Evaluator
open Value (atomWithin withinList withinBuiltin)

namespace Value

/-- Of the functions of the host it is one of `F`, if any. -/
def Uses (F : HostFunction → Prop) : Value → Prop
  | builtin f => ∀ h, f.primitive = .host h → F h
  | _ => True

def UsesOnly (F : HostFunction → Prop) (v : Value) : Prop := v.Within (Uses F)

variable {F : HostFunction → Prop}

@[simp] theorem symbolUsesOnly (name : String) : (symbol name).UsesOnly F := atomWithin trivial

@[simp] theorem boolUsesOnly (b : Bool) : (bool b).UsesOnly F := atomWithin trivial

@[simp] theorem listUsesOnly {items : List Value} :
    (list items).UsesOnly F ↔ ∀ v ∈ items, v.UsesOnly F := withinList

@[simp] theorem builtinUsesOnly {f : Builtin} :
    (builtin f).UsesOnly F ↔ ∀ h, f.primitive = .host h → F h := withinBuiltin

end Value

def ScopeStack.UsesOnly (F : HostFunction → Prop) (s : ScopeStack) : Prop :=
  ∀ name v, s.lookup? name = some v → v.UsesOnly F

/-- Two runs that are shown the same names, up to faults of `E`. -/
def Coupling.byNames (F : HostFunction → Prop) (E : Fault → Prop) : Coupling :=
  ⟨Value.Uses F, E, fun _ => True, False⟩

/-- The functions of `F` see of the scopes only what names resolve to, up to faults of `E`. -/
def Host.SeesNames (host : Host) (F : HostFunction → Prop) (E : Fault → Prop) : Prop :=
  host.Follows (.byNames F E) host

/-- A name that is missing from one of two stacks only, or has another value there. -/
def Fault.Tells (s t : ScopeStack) (fault : Fault) : Prop :=
  ∃ name, fault = .lisp (.undeclared name) ∧ s.lookup? name ≠ t.lookup? name

theorem visibleExtended {F : HostFunction → Prop} {s t : ScopeStack}
    (resolves : ∀ name v, s.lookup? name = some v → t.lookup? name = some v)
    (uses : s.UsesOnly F) : ScopeStack.Extended (.byNames F (Fault.Tells s t)) s t where
  visible name v found := ⟨resolves name v found, uses name v found⟩
  hidden name absent := by
    by_cases same : s.lookup? name = t.lookup? name
    · exact .inl (same ▸ absent)
    · exact .inr ⟨name, rfl, same⟩
  depth := nofun

/-- What is visible in a stack of scopes decides how evaluation ends, what it reads and writes, and
what it binds. The supply of marks for new NaNs is the host's, as the streams are. -/
theorem evalSeesVisible {host : Host} {F : HostFunction → Prop} (n : Nat) (e : Value) (m : Machine)
    (s t : ScopeStack) (sees : host.SeesNames F (Fault.Tells s t))
    (resolves : ∀ name v, s.lookup? name = some v → t.lookup? name = some v)
    (uses : e.UsesOnly F) (usesNames : s.UsesOnly F) :
    let ended := ((atDepth host n).eval e).exec { m with stack := s }
    let other := ((atDepth host n).eval e).exec { m with stack := t }
    ((∀ name, ended.1 ≠ .error (.lisp (.undeclared name))) ∨
        ∀ name, s.lookup? name = t.lookup? name) →
      ended.1 = other.1 ∧ ended.2.input = other.2.input ∧ ended.2.output = other.2.output ∧
        ((ended.2.stack = s ∧ other.2.stack = t) ∨
          ∃ name v, ended.2.stack = s.bindLocal name v ∧ other.2.stack = t.bindLocal name v) := by
  intro ended other either
  have same : Machine.Corresponds (.byNames F (Fault.Tells s t)) { m with stack := s }
      { m with stack := t } :=
    ⟨visibleExtended resolves usesNames, rfl, rfl, rfl, fun _ _ => trivial⟩
  rcases followsEval sees n uses _ _ same with ⟨_, failed, ⟨name, rfl, differ⟩, _⟩ | agree
  · rcases either with declared | alike
    · exact absurd failed (declared name)
    · exact absurd (alike name) differ
  · refine ⟨agree.result, agree.input, agree.output, agree.single.imp_right ?_⟩
    exact fun ⟨name, v, _, bound⟩ => ⟨name, v, bound⟩

/-- A definition, of what a function of the host is called with and gives back. -/
theorem definitionSeesVisible :
    let host := Host.callBack 400 400
    let s : ScopeStack := ⟨[], ⟨[("a", .nil)]⟩⟩
    let t : ScopeStack := ⟨[.empty, ⟨[("b", .bool true)]⟩], ⟨[("a", .nil)]⟩⟩
    let m : Machine := ⟨s, .ofText "" .newline, .empty, [], 0⟩
    let first : Builtin := ⟨"list", .listOf, .any, false⟩
    let call : Value := .list [.builtin ⟨"call", .host ⟨0⟩, .any, false⟩, .builtin first, .symbol "a"]
    let e : Value := .list [.builtin ⟨"define", .define, .atLeast 2, true⟩, .symbol "c", call]
    let ended := ((atDepth host 9).eval e).exec { m with stack := s }
    let other := ((atDepth host 9).eval e).exec { m with stack := t }
    ended.1 = .ok .nil ∧ other.1 = ended.1 ∧
      ∃ name v, ended.2.stack = s.bindLocal name v ∧ other.2.stack = t.bindLocal name v := by
  intro host s t m first call e ended other
  have known {name : String} {v : Value} (found : s.lookup? name = some v) :
      name = "a" ∧ v = .nil := by
    have here : [("a", Value.nil)].lookup name = some v := found
    rw [List.lookup_cons] at here
    split at here
    · exact ⟨eq_of_beq ‹_›, (Option.some.inj here).symm⟩
    · cases here
  have resolves : ∀ name v, s.lookup? name = some v → t.lookup? name = some v := by
    intro name v found
    obtain ⟨rfl, rfl⟩ := known found
    rfl
  have uses : e.UsesOnly fun _ => True := by simp [e, call, first]
  have usesNames : s.UsesOnly fun _ => True := by
    intro name v found
    obtain ⟨rfl, rfl⟩ := known found
    exact Value.atomWithin trivial
  have done : ended.1 = .ok .nil := rfl
  have declared : ∀ name, ended.1 ≠ .error (.lisp (.undeclared name)) := by
    intro name failed
    cases done.symm.trans failed
  obtain ⟨same, _, _, change⟩ := evalSeesVisible 9 e m s t (Host.callBackFollows 400 400) resolves
    uses usesNames (.inl declared)
  refine ⟨done, same.symm, change.resolve_left fun unchanged => ?_⟩
  have bound : ended.2.stack.globals.bindings.length = 2 := rfl
  rw [unchanged.1] at bound
  cases bound

end DynLisp
