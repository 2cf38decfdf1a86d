/-!
How many arguments a callable accepts.
-/

namespace DynLisp

inductive Arity where
  | fixed (count : Nat)
  /-- The counts stand in increasing order, each once; `Arity.among` puts them so. -/
  | oneOf (counts : List Nat)
  | atLeast (count : Nat)
  | any
  deriving DecidableEq, Repr

namespace Arity

def among (counts : List Nat) : Arity := oneOf (counts.eraseDups.mergeSort)

def accepts : Arity → Nat → Bool
  | fixed n, count => count == n
  | oneOf ns, count => ns.contains count
  | atLeast n, count => n ≤ count
  | any, _ => true

def text : Arity → String
  | fixed n => "Fixed(" ++ toString n ++ ")"
  | oneOf ns => "OneOf(" ++ ", ".intercalate (ns.map toString) ++ ")"
  | atLeast n => "AtLeast(" ++ toString n ++ ")"
  | any => "Any"

end Arity

end DynLisp
