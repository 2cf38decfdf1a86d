import DynLisp.Association
import DynLisp.Fault

/-!
Scopes and the stack of active ones. A scope maps names to values and keeps them in the order of
their first binding. Scopes do not link to one another: the stack is searched from the innermost
scope outwards, with the global scope last.
-/

namespace DynLisp

/-- A name as a host gives it: a text, or a symbol of the language. -/
inductive Name where
  | text (s : String)
  | symbol (s : String)
  deriving DecidableEq, Repr

def Name.spelling : Name → String
  | text s | symbol s => s

/-- Values by name, a text and a symbol of one spelling being two names. -/
structure Mapping where
  pairs : List (Name × Value)
  deriving Repr

def Mapping.ofPairs (pairs : List (Name × Value)) : Mapping :=
  ⟨pairs.foldl (fun m (name, value) => assign name value m) []⟩

structure Scope where
  bindings : List (String × Value)
  deriving Repr

namespace Scope

def empty : Scope := ⟨[]⟩

def get? (s : Scope) (name : String) : Option Value := s.bindings.lookup name

/-- What a host reads under a name. Without a default the name has to be bound. -/
def get (s : Scope) (name : Name) (default? : Option Value) : Except Fault Value :=
  match (s.get? name.spelling).or default? with
  | some v => .ok v
  | none => .error (.host (.missingKey name.spelling))

def set (s : Scope) (name : String) (value : Value) : Scope := ⟨assign name value s.bindings⟩

/-- Binds the names of a mapping in its order, each by its spelling. -/
def update (s : Scope) (m : Mapping) : Scope :=
  m.pairs.foldl (fun s (name, value) => s.set name.spelling value) s

def ofMapping (m : Mapping) : Scope := empty.update m

def names (s : Scope) : List String := s.bindings.map Prod.fst

def size (s : Scope) : Nat := s.bindings.length

/-- Only texts and symbols can be names. -/
def contains (s : Scope) : Value → Bool
  | .text name | .derivedText name _ | .symbol name => (s.get? name).isSome
  | _ => false

def inspect (s : Scope) : String :=
  "<Scope \x7b" ++ ", ".intercalate (s.bindings.map fun (name, v) => name ++ ": " ++ v.inspect) ++
    "\x7d>"

end Scope

/-- The active scopes: those entered, the innermost first, and the global one under them. -/
structure ScopeStack where
  entered : List Scope
  globals : Scope
  deriving Repr

namespace ScopeStack

def depth (s : ScopeStack) : Nat := s.entered.length + 1

def enter (s : ScopeStack) : ScopeStack := { s with entered := .empty :: s.entered }

/-- The global scope cannot be left. -/
def leave? (s : ScopeStack) : Option ScopeStack :=
  match s.entered with
  | [] => none
  | _ :: rest => some { s with entered := rest }

def lookup? (s : ScopeStack) (name : String) : Option Value :=
  (s.entered.findSome? (·.get? name)).or (s.globals.get? name)

def bindGlobal (s : ScopeStack) (name : String) (value : Value) : ScopeStack :=
  { s with globals := s.globals.set name value }

def bindLocal (s : ScopeStack) (name : String) (value : Value) : ScopeStack :=
  match s.entered with
  | [] => s.bindGlobal name value
  | inner :: rest => { s with entered := inner.set name value :: rest }

theorem lookupEnter (s : ScopeStack) (name : String) : s.enter.lookup? name = s.lookup? name := rfl

/-- Binds one scope above the innermost, which belongs to the form that defines. -/
def bindAbove (s : ScopeStack) (name : String) (value : Value) : ScopeStack :=
  match s.entered with
  | inner :: outer :: rest => { s with entered := inner :: outer.set name value :: rest }
  | _ => s.bindGlobal name value

end ScopeStack

end DynLisp
