import DynLisp.Fault

/-!
Projections of a value onto one variant. A value of another variant is reported with the variants
that would have done.
-/

namespace DynLisp

/-- The whole part of a number, which the host makes of any finite one. -/
def Number.truncate (x : Number) : Except Fault Int :=
  match x.truncate? with
  | some n => .ok n
  | none => .error (.host (if x.isNaN then .integerOfNaN else .integerOfInfinity))

namespace Value

def mismatch {α : Type} (expected : List Descriptor) (v : Value) : Except Fault α :=
  .error (.lisp (.wrongType expected v))

def asNumber : Value → Except Fault Number
  | number n => .ok n
  | v => v.mismatch [.number]

def asBool : Value → Except Fault Bool
  | bool b => .ok b
  | v => v.mismatch [.bool]

def asText : Value → Except Fault String
  | text s | derivedText s _ => .ok s
  | v => v.mismatch [.text]

def asSymbol : Value → Except Fault String
  | symbol x => .ok x
  | v => v.mismatch [.symbol]

def asList : Value → Except Fault (List Value)
  | list items => .ok items
  | v => v.mismatch [.list]

def asListOrNil : Value → Except Fault (List Value)
  | list items => .ok items
  | nil => .ok []
  | v => v.mismatch [.list, .nil]

def asInteger (v : Value) : Except Fault Int := do
  let x ← v.asNumber
  if x.isInteger then x.truncate else v.mismatch [.number]

def unquote : Value → Except Fault Value
  | quote v | hostQuote v _ => .ok v
  | v => v.mismatch [.quote]

/-- Names are interned, which only texts of their own class can be. -/
def toSymbol : Value → Except Fault Value
  | text s => .ok (symbol s)
  | derivedText _ typeName => .error (.host (.uninterned typeName))
  | v => .error (.host (.badName v.hostTypeName))

/-- A text of the value. The host goes down into a value up to a limit. -/
def shown (limit : Nat) (text : Value → String) (v : Value) : Except Fault String :=
  if v.nesting ≤ limit then .ok (text v) else .error (.host .tooDeep)

end Value

end DynLisp
