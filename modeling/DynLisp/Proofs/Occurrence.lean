import DynLisp.Scope

/-! What occurs in a value, and what a stack of scopes binds. An opaque value is one that
the language cannot take apart and make again: a builtin, a wrapped object, a text of a
class of the host's own, or an object of the host. `Within P` allows only opaque
occurrences that satisfy `P`. -/

namespace DynLisp

namespace Value

/-- In lists, quotes and bodies of lambdas, and in what the host has made of values. -/
inductive Occurs (x : Value) : Value → Prop where
  | here : Occurs x x
  | item {v items} (member : v ∈ items) (inside : Occurs x v) : Occurs x (.list items)
  | payload {v} (inside : Occurs x v) : Occurs x (.quote v)
  | form {v params body} (member : v ∈ body) (inside : Occurs x v) : Occurs x (.lambda params body)
  | entry {v items mark} (member : v ∈ items) (inside : Occurs x v) : Occurs x (.tuple items mark)
  | held {v mark} (inside : Occurs x v) : Occurs x (.hostQuote v mark)

/-- An object of the host that lies outside the language. -/
def IsRaw : Value → Prop
  | absent | integer _ _ | tuple _ _ | object _ | stranger _ _ _ | hostQuote _ _ => True
  | _ => False

def IsOpaque : Value → Prop
  | builtin _ | foreign _ _ | derivedText _ _ => True
  | v => v.IsRaw

theorem rawIsOpaque {v : Value} (raw : v.IsRaw) : v.IsOpaque := by
  cases v <;> first | exact raw.elim | trivial

def IsAtom : Value → Prop
  | number _ | bool _ | symbol _ | text _ | nil | type _ => True
  | _ => False

def Within (P : Value → Prop) (v : Value) : Prop := ∀ x, Occurs x v → x.IsOpaque → P x

variable {P : Value → Prop}

theorem atomWithin {v : Value} (atom : v.IsAtom) : v.Within P := by
  intro x occurs hidden
  cases occurs with
  | here => cases v <;> first | exact hidden.elim | exact atom.elim
  | _ => exact atom.elim

@[simp] theorem withinList {items : List Value} :
    (list items).Within P ↔ ∀ v ∈ items, v.Within P := by
  constructor
  · exact fun h v member x occurs => h x (.item member occurs)
  · intro h x occurs hidden
    cases occurs with
    | here => exact hidden.elim
    | item member inside => exact h _ member x inside hidden

@[simp] theorem withinQuote {v : Value} : (quote v).Within P ↔ v.Within P := by
  constructor
  · exact fun h x occurs => h x (.payload occurs)
  · intro h x occurs hidden
    cases occurs with
    | here => exact hidden.elim
    | payload inside => exact h x inside hidden

@[simp] theorem withinLambda {params : List String} {body : List Value} :
    (lambda params body).Within P ↔ ∀ v ∈ body, v.Within P := by
  constructor
  · exact fun h v member x occurs => h x (.form member occurs)
  · intro h x occurs hidden
    cases occurs with
    | here => exact hidden.elim
    | form member inside => exact h _ member x inside hidden

@[simp] theorem withinBuiltin {f : Builtin} : (Value.builtin f).Within P ↔ P (.builtin f) := by
  constructor
  · exact fun h => h _ .here trivial
  · rintro h x ⟨⟩ _
    exact h

theorem Within.held {v : Value} {mark : Nat} (h : (hostQuote v mark).Within P) : v.Within P :=
  fun x occurs => h x (.held occurs)

theorem Within.typed {v : Value} (h : v.Within fun x => ¬ x.IsRaw) : ∃ d, v.descriptor? = some d := by
  induction v using descriptor?.induct with
  | case8 v ih =>
    obtain ⟨d, typed⟩ := ih (withinQuote.1 h)
    exact ⟨.quoteOf d, by simp [descriptor?, typed]⟩
  | case13 v =>
    refine absurd ?_ (h v .here ?_) <;> cases v <;> first | trivial | simp_all
  | _ => exact ⟨_, rfl⟩

end Value

theorem memAssign {κ α : Type} [BEq κ] {key other : κ} {value v : α} {pairs : List (κ × α)}
    (h : (other, v) ∈ assign key value pairs) : v = value ∨ (other, v) ∈ pairs := by
  induction pairs with
  | nil =>
    cases List.mem_singleton.1 h
    exact .inl rfl
  | cons pair rest ih =>
    rw [assign] at h
    split at h <;> rcases List.mem_cons.1 h with same | member
    · cases same
      exact .inl rfl
    · exact .inr (.tail _ member)
    · exact .inr (same ▸ .head _)
    · exact (ih member).imp_right (.tail _)

namespace ScopeStack

/-- Some scope of the stack, be it hidden or not, gives the value to some name. -/
def Binds (s : ScopeStack) (v : Value) : Prop :=
  ∃ scope ∈ s.globals :: s.entered, ∃ name, (name, v) ∈ scope.bindings

def Holds (s : ScopeStack) (x : Value) : Prop := ∃ v, s.Binds v ∧ x.Occurs v

theorem lookupBinds {s : ScopeStack} {name : String} {v : Value} (found : s.lookup? name = some v) :
    s.Binds v := by
  have bound {scope : Scope} (here : scope.get? name = some v) : (name, v) ∈ scope.bindings := by
    obtain ⟨before, after, split, _⟩ := List.lookup_eq_some_iff.1 here
    exact split ▸ List.mem_append_right before (.head after)
  rcases Option.or_eq_some_iff.1 found with inner | ⟨_, outer⟩
  · obtain ⟨scope, member, here⟩ := List.exists_of_findSome?_eq_some inner
    exact ⟨scope, .tail _ member, name, bound here⟩
  · exact ⟨s.globals, .head _, name, bound outer⟩

theorem bindLocalBinds {s : ScopeStack} {name : String} {v w : Value}
    (h : (s.bindLocal name v).Binds w) : w = v ∨ s.Binds w := by
  obtain ⟨_ | ⟨inner, rest⟩, g⟩ := s <;> obtain ⟨scope, member, key, bound⟩ := h
  · obtain rfl : scope = g.set name v := List.mem_singleton.1 member
    exact (memAssign bound).imp_right fun before => ⟨g, .head _, key, before⟩
  · rcases List.mem_cons.1 member with rfl | member
    · exact .inr ⟨_, .head _, key, bound⟩
    · rcases List.mem_cons.1 member with rfl | member
      · exact (memAssign bound).imp_right fun before => ⟨inner, .tail _ (.head _), key, before⟩
      · exact .inr ⟨scope, .tail _ (.tail _ member), key, bound⟩

end ScopeStack

end DynLisp
