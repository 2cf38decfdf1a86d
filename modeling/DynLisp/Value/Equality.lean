import DynLisp.Value.Basic

/-!
Equality of values. It compares structure and never confuses variants; functions of the host, wrapped
objects and NaN are compared by identity, and so is everything outside the language.
-/

namespace DynLisp

def Builtin.same (f g : Builtin) : Bool := f.primitive == g.primitive && f.arity == g.arity

namespace Value

mutual

def same : Value → Value → Bool
  | number x, number y => x.same y
  | bool b, bool c => b == c
  | symbol x, symbol y => x == y
  | text s, text t | text s, derivedText t _ | derivedText s _, text t
  | derivedText s _, derivedText t _ => s == t
  | list xs, list ys => sameAll xs ys
  | nil, nil => true
  | quote v, quote w => v.same w
  | builtin f, builtin g => f.same g
  | lambda ps xs, lambda qs ys => ps == qs && sameAll xs ys
  | type d, type e => d == e
  | foreign o i, foreign p j => o.isSame p && i == j
  | absent, absent => true
  | integer n i, integer m j => n == m && i == j
  | tuple _ i, tuple _ j => i == j
  | object o, object p => o.isSame p
  | stranger s _ i, stranger t _ j => s == t && i == j
  | hostQuote _ i, hostQuote _ j => i == j
  | _, _ => false

def sameAll : List Value → List Value → Bool
  | [], [] => true
  | x :: xs, y :: ys => x.same y && sameAll xs ys
  | _, _ => false

end

end Value

end DynLisp
