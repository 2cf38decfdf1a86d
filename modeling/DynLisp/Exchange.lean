import DynLisp.Value.Projection

/-!
Values that cross between host and language. Objects of the host's classes enter wrapped with the id
of their class, which the registry hands out in the order of first use; they leave only as what
their class is exactly.
-/

namespace DynLisp

structure Registry where
  classes : List HostClass
  deriving Repr

namespace Registry

def empty : Registry := ⟨[]⟩

def typeId (r : Registry) (c : HostClass) : Nat × Registry :=
  match r.classes.idxOf? c with
  | some i => (i + 1, r)
  | none => (r.classes.length + 1, ⟨r.classes ++ [c]⟩)

end Registry

/-- An exchange may use the registry and may fail; what it registered before stays registered. -/
abbrev Exchange := ExceptT Fault (StateM Registry)

namespace Exchange

def typeId (c : HostClass) : Exchange Nat := modifyGet fun r => r.typeId c

def wrap : Value → Exchange Value
  | .object o => return .foreign o (← typeId o.cls)
  | v => liftExcept (v.mismatch [.foreign])
where liftExcept {α : Type} (x : Except Fault α) : Exchange α := ExceptT.mk (pure x)

def downcast (c : HostClass) (o : HostObject) (id : Nat) : Exchange Value := do
  let requested ← typeId c
  if requested = id then return .object o
  else throw (.lisp (.foreignMismatch requested c.name (.foreign o id)))

mutual

def toLisp : Value → Exchange Value
  | .integer n _ =>
    let x := Number.ofInt n
    if x.isFinite then return .number x else throw (.host .integerTooLarge)
  | .absent => return .nil
  | .list items => return .list (← toLispAll items)
  | .tuple items _ => return .list (← toLispAll items)
  | v@(.object _) | v@(.stranger _ _ _) => wrap v
  | v => return v

def toLispAll : List Value → Exchange (List Value)
  | [] => return []
  | v :: vs => return (← toLisp v) :: (← toLispAll vs)

end

end Exchange

inductive HostType where
  | bool
  | number
  | integer
  | text
  | list
  | nil
  | symbol
  | quote
  | builtin
  | lambda
  | type
  | object (c : HostClass)
  | unsupported (typeName : String)
  deriving Repr

namespace HostType

def descriptor? : HostType → Option Descriptor
  | bool => some .bool
  | number | integer => some .number
  | text => some .text
  | list => some .list
  | nil => some .nil
  | symbol => some .symbol
  | quote => some .quote
  | builtin => some .builtin
  | lambda => some .lambda
  | type => some .type
  | object _ => some .foreign
  | unsupported _ => none

end HostType

def Exchange.fromLisp (t : HostType) (v : Value) : Exchange Value :=
  match t, v with
  | .integer, v => ExceptT.mk (pure ((.integer · 0) <$> v.asInteger))
  | .nil, .nil => return .absent
  | .object c, .foreign o id => downcast c o id
  | .unsupported name, _ => throw (.host (.noConversion name))
  | .bool, .bool _ | .number, .number _ | .text, .text _ | .text, .derivedText _ _
  | .list, .list _ | .symbol, .symbol _ | .quote, .quote _ | .quote, .hostQuote _ _
  | .builtin, .builtin _ | .lambda, .lambda _ _ | .type, .type _ => return v
  | t, v => ExceptT.mk (pure (v.mismatch t.descriptor?.toList))

end DynLisp
