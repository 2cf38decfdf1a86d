import DynLisp.Number.Basic

/-!
Powers. The limits at zero, one and infinity are stated here; between them the host's `pow` answers,
which this library takes as it is.
-/

namespace DynLisp

inductive PowerFault where
  | zeroToNegative
  | overflow
  /-- A negative base with an exponent that is no integer has no real power. -/
  | notReal
  | notRealOverflow
  deriving DecidableEq, Repr

namespace Number

def signBit : Nat := 0x8000000000000000

def toFloat : Number → Float
  | nan _ => 0 / 0
  | infinite s => .ofBits (.ofNat ((if s then signBit else 0) + rankLimit))
  | finite s r => .ofBits (.ofNat ((if s then signBit else 0) + r))

def ofFloat (f : Float) : Number :=
  if f.isNaN then nan 0
  else
    let bits := f.toBits.toNat
    ofRank (decide (signBit ≤ bits)) (bits % signBit)

def hostPower (base exponent : Number) : Number := ofFloat (base.toFloat.pow exponent.toFloat)

def isOddInteger (x : Number) : Bool :=
  match x.toInt? with
  | some n => n % 2 != 0
  | none => false

def infinitePower (base : Number) (negative : Bool) : Number :=
  let size := base.abs
  if size.same one then one
  else if one.lt size != negative then infinite false
  else zero

def power (base exponent : Number) : Except PowerFault Number :=
  if exponent.isZero then .ok one
  else if base.isNaN then .ok base
  else match exponent with
    | nan _ => .ok (if base.same one then one else exponent)
    | infinite negative => .ok (infinitePower base negative)
    | finite negative _ =>
      match base with
      | nan _ => .ok base
      | infinite s =>
        .ok ((if negative then zero else infinite false).withSign (s && exponent.isOddInteger))
      | finite s _ =>
        if base.isZero then
          if negative then .error .zeroToNegative
          else .ok (zero.withSign (s && exponent.isOddInteger))
        else if s && exponent.toInt?.isNone then
          if (hostPower base.abs exponent).isFinite then .error .notReal
          else .error .notRealOverflow
        else
          let flip := s && exponent.isOddInteger
          if base.abs.same one then .ok (one.withSign flip)
          else
            let size := hostPower base.abs exponent
            if size.isFinite then .ok (size.withSign flip) else .error .overflow

end Number

end DynLisp
