import DynLisp.Machine
import DynLisp.Value.Equality

/-!
Arithmetic and comparison. A sum is rounded once; the other operations go from left to right.
-/

namespace DynLisp.Library

/-- An argument, or an item, at a position that there is not. -/
def missing {α : Type} : Except Fault α := .error (.host .outOfRange)

/-- No argument to take apart into a first one and others. -/
def noFirst {α : Type} : Except Fault α := .error (.host (.unpackShort true 1 0))

/-- So many arguments to take apart into two. -/
def noPair {α : Type} (got : Nat) : Except Fault α :=
  .error (.host (if got < 2 then .unpackShort false 2 got else .unpackLong 2))

def add (xs : List Number) : Except Fault Number :=
  match Number.sum xs with
  | .ok x => .ok x
  | .error cause => .error (.host (.sum cause))

def subtract : List Number → Except Fault Number
  | [] => noFirst
  | [x] => .ok x.neg
  | x :: xs => .ok (xs.foldl Number.sub x)

def multiply (xs : List Number) : Number := xs.foldl Number.mul .one

def divideBy (x y : Number) : Except Fault Number :=
  if y.isZero then .error (.lisp (.arithmetic .divisionByZero)) else .ok (x.div y)

def divide : List Number → Except Fault Number
  | [] => noFirst
  | [x] => divideBy .one x
  | x :: xs => xs.foldlM divideBy x

def power : List Number → Except Fault Number
  | [base, exponent] =>
    match base.power exponent with
    | .ok x => .ok x
    | .error cause => .error (.lisp (.arithmetic (match cause with
      | .zeroToNegative => .zeroToNegative
      | .overflow => .powerOverflow
      | .notReal => .notReal base exponent
      | .notRealOverflow => .complexOverflow)))
  | xs => noPair xs.length

def modulo : List Number → Except Fault Number
  | [x, d] => if d.isZero then .error (.lisp (.arithmetic .moduloByZero)) else .ok (x.mod d)
  | xs => noPair xs.length

def chain (r : Number → Number → Bool) : List Number → Bool
  | x :: y :: rest => r x y && chain r (y :: rest)
  | _ => true

def numeric (f : List Number → Except Fault Number) (args : List Value) : Run Value := do
  Run.ofNumber (← Run.ofExcept (do f (← args.mapM Value.asNumber)))

def compared (r : Number → Number → Bool) (args : List Value) : Except Fault Value := do
  return .bool (chain r (← args.mapM Value.asNumber))

def equal : List Value → Except Fault Value
  | [] => missing
  | v :: vs => .ok (.bool (vs.all v.same))

def notEqual : List Value → Except Fault Value
  | v :: w :: _ => .ok (.bool (!v.same w))
  | _ => missing

def conjunction (args : List Value) : Except Fault Value := do
  return .bool ((← args.mapM Value.asBool).all id)

def disjunction (args : List Value) : Except Fault Value := do
  return .bool ((← args.mapM Value.asBool).any id)

def negation : List Value → Except Fault Value
  | v :: _ => do return .bool (!(← v.asBool))
  | [] => missing

end DynLisp.Library
