import DynLisp.Number.Basic
import DynLisp.Text.Class

/-!
Decimal numerals. `Decimal.toNumber` is the nearest number to a decimal, `Number.ofText?` reads the
numerals that a host accepts as a number: an optional sign, digits of any script with an optional
point and exponent, single underscores between digits, or one of the words for infinity and NaN;
white space around it does not count.
-/

namespace DynLisp

/-- Stands for `coefficient * 10 ^ exponent`. -/
structure Decimal where
  negative : Bool
  coefficient : Nat
  exponent : Int
  deriving DecidableEq, Repr

namespace Decimal

/-- Exponents that put any coefficient beyond the finite range, or below half a step, are settled
without the power of ten: `10 ^ 400` exceeds every finite number, and `coefficient / 10 ^ k` is less
than `2 ^ (log2 coefficient + 1 - 3 * k)`. -/
def toNumber (d : Decimal) : Number :=
  if d.coefficient = 0 then Number.zero.withSign d.negative
  else match d.exponent with
    | .ofNat e =>
      if 400 < e then .infinite d.negative else .ofRatio d.negative (d.coefficient * Nat.pow 10 e) 1
    | .negSucc e =>
      if d.coefficient.log2 + 1100 < 3 * (e + 1) then Number.zero.withSign d.negative
      else .ofRatio d.negative d.coefficient (Nat.pow 10 (e + 1))

def digitsValue (cs : List Char) : Nat :=
  cs.foldl (fun n c => 10 * n + (digitValue? c).getD 0) 0

/-- An exponent: `e`, an optional sign and at least one digit. Nothing at all stands for zero. -/
def exponent? : List Char → Option Int
  | [] => some 0
  | e :: cs =>
    if e != 'e' && e != 'E' then none
    else
      let (minus, ds) := match cs with
        | '-' :: ds => (true, ds)
        | '+' :: ds => (false, ds)
        | ds => (false, ds)
      if ds.isEmpty || !ds.all isDigit then none
      else some (if minus then -(digitsValue ds : Int) else digitsValue ds)

/-- An unsigned numeral: digits, an optional point and more digits, an optional exponent. -/
def unsigned? (negative : Bool) (cs : List Char) : Option Decimal := do
  let whole := cs.takeWhile isDigit
  let (fraction, rest) := match cs.dropWhile isDigit with
    | '.' :: rest => (rest.takeWhile isDigit, rest.dropWhile isDigit)
    | rest => ([], rest)
  if whole.isEmpty && fraction.isEmpty then none
  else
    let e ← exponent? rest
    return ⟨negative, digitsValue (whole ++ fraction), e - fraction.length⟩

/-- Drops underscores that stand between two digits; any other underscore is refused. -/
def withoutSeparators? (afterDigit : Bool) : List Char → Option (List Char)
  | [] => some []
  | '_' :: c :: cs =>
    if afterDigit && isDigit c then (withoutSeparators? true cs).map (c :: ·) else none
  | c :: cs =>
    if c == '_' then none else (withoutSeparators? (isDigit c) cs).map (c :: ·)

end Decimal

namespace Number

/-- The words for infinity and NaN, in any mix of cases. -/
def ofWord? (negative : Bool) (cs : List Char) : Option Number :=
  match String.ofList (cs.map Char.toLower) with
  | "inf" | "infinity" => some (infinite negative)
  | "nan" => some (nan 0)
  | _ => none

/-- White space that may surround a numeral. The separators U+001C to U+001F are not among it. -/
def isMargin (c : Char) : Bool := isBlank c && !(28 ≤ c.toNat && c.toNat ≤ 31)

def ofText? (text : String) : Option Number := do
  let inner := ((text.toList.dropWhile isMargin).reverse.dropWhile isMargin).reverse
  let (negative, body) := match inner with
    | '-' :: cs => (true, cs)
    | '+' :: cs => (false, cs)
    | cs => (false, cs)
  match ofWord? negative body with
  | some n => some n
  | none => do
    let digits ← Decimal.withoutSeparators? false body
    let d ← Decimal.unsigned? negative digits
    return d.toNumber

end Number

end DynLisp
