import DynLisp.Number.Decimal

/-!
Numerals written for numbers: the fewest digits that read back. For each count of digits the two
decimals on either side of the number are tried, the nearer first; seventeen digits are enough for
every finite number. `Number.numeral` always shows a point or an exponent, `Number.source` drops
them from the whole numbers below `10 ^ 16`.
-/

namespace DynLisp

namespace Decimal

def zeros (n : Nat) : List Char := List.replicate n '0'

def exponentDigits (n : Nat) : List Char :=
  let ds := Nat.toDigits 10 n
  zeros (2 - ds.length) ++ ds

/-- Digits with a point after the first `point` of them, padded with zeros on either side. -/
def positional (ds : List Char) (point : Int) : List Char :=
  if point ≤ 0 then '0' :: '.' :: zeros (-point).toNat ++ ds
  else if ds.length ≤ point.toNat then ds ++ zeros (point.toNat - ds.length) ++ ['.', '0']
  else ds.take point.toNat ++ '.' :: ds.drop point.toNat

def scientific (ds : List Char) (e : Int) : List Char :=
  ds.take 1 ++ (if ds.length ≤ 1 then [] else '.' :: ds.drop 1) ++
    'e' :: (if e < 0 then '-' else '+') :: exponentDigits e.natAbs

/-- Positional from `10 ^ -4` up to below `10 ^ 16`, scientific beyond. -/
def layout (d : Decimal) : List Char :=
  let all := Nat.toDigits 10 d.coefficient
  let significant := (all.reverse.dropWhile (· == '0')).reverse
  let ds := if significant.isEmpty then ['0'] else significant
  let point := d.exponent + all.length
  (if d.negative then ['-'] else []) ++
    if -4 < point && point ≤ 16 then positional ds point else scientific ds (point - 1)

def leadingExponent (num den : Nat) : Int :=
  if den ≤ num then ((Nat.toDigits 10 (num / den)).length - 1 : Nat)
  else -((Nat.toDigits 10 ((den - 1) / num)).length : Int)

/-- The two decimals with `count` digits around a positive quotient, the nearer first. -/
def neighbours (negative : Bool) (num den count : Nat) : List Decimal :=
  let places := (count : Int) - 1 - leadingExponent num den
  let scaledNum := num * Nat.pow 10 places.toNat
  let scaledDen := den * Nat.pow 10 (-places).toNat
  let low := scaledNum / scaledDen
  let twice := 2 * (scaledNum % scaledDen)
  let lower := Decimal.mk negative low (-places)
  let upper := Decimal.mk negative (low + 1) (-places)
  if twice < scaledDen || (twice == scaledDen && low % 2 == 0) then [lower, upper] else [upper, lower]

end Decimal

namespace Number

/-- Every digit of a finite number: a step is `5 ^ 1074` units of the last of 1074 places. -/
def exactNumeral (negative : Bool) (rank : Nat) : String :=
  .ofList ((if negative then ['-'] else []) ++
    Nat.toDigits 10 (steps rank * Nat.pow 5 1074) ++ "e-1074".toList)

/-- The shortest numeral that reads back as the number. -/
def finiteNumeral (negative : Bool) (rank : Fin rankLimit) : String :=
  if rank.val = 0 then (if negative then "-0.0" else "0.0")
  else
    let written := (List.range 17).findSome? fun count =>
      ((Decimal.neighbours negative (steps rank) unity (count + 1)).map
        fun d => String.ofList d.layout).find? fun text =>
          ofText? text == some (finite negative rank)
    written.getD (exactNumeral negative rank)

def numeral : Number → String
  | nan _ => "nan"
  | infinite s => if s then "-inf" else "inf"
  | finite s r => finiteNumeral s r

def source (x : Number) : String :=
  match x.toInt? with
  | some n => if n.natAbs < 10000000000000000 then toString n else x.numeral
  | none => x.numeral

end Number

end DynLisp
