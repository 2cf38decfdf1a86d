import DynLisp.Number.Basic

/-!
Sums of many numbers, rounded once. The running total is kept exactly, as a list of partial sums in
increasing order of size whose digits do not overlap. An infinite partial sum of finite terms is
reported at once, also where a later term would have brought the total back into range. Infinite
terms are summed apart, and once more together with the NaNs.
-/

namespace DynLisp

inductive SumFault where
  | overflow
  | opposedInfinities
  deriving DecidableEq, Repr

namespace Number

/-- The rounded sum and the error of rounding it, which is again a number. -/
def addWithError (x y : Number) : Number × Number :=
  let (larger, smaller) := if x.abs.lt y.abs then (y, x) else (x, y)
  let sum := larger.add smaller
  (sum, smaller.sub (sum.sub larger))

def absorb (x : Number) : List Number → List Number × Number
  | [] => ([], x)
  | p :: ps =>
    let (sum, error) := addWithError x p
    let (errors, total) := absorb sum ps
    (if error.isZero then errors else error :: errors, total)

structure Partials where
  /-- Finite and nonzero, the smallest first. -/
  sums : List Number
  infinities : Number
  special : Number

def Partials.empty : Partials := ⟨[], zero, zero⟩

def Partials.insert (s : Partials) (x : Number) : Except SumFault Partials :=
  let (errors, total) := absorb x s.sums
  if total.isZero then .ok { s with sums := errors }
  else if total.isFinite then .ok { s with sums := errors ++ [total] }
  else if x.isFinite then .error .overflow
  else .ok ⟨[], if x.isNaN then s.infinities else s.infinities.add x, s.special.add x⟩

/-- Adds partial sums, the largest first, until one no longer fits: what was added, the error of the
last addition, and the sums left over. -/
def collapse (total : Number) : List Number → Number × Number × List Number
  | [] => (total, zero, [])
  | p :: ps =>
    let sum := total.add p
    let error := p.sub (sum.sub total)
    if error.isZero then collapse sum ps else (sum, error, ps)

/-- A half that was rounded to even goes the other way if the sums left over lie on its side. -/
def Partials.total (s : Partials) : Number :=
  match s.sums.reverse with
  | [] => zero
  | largest :: rest =>
    match collapse largest rest with
    | (sum, error, p :: _) =>
      let twice := error.add error
      let moved := sum.add twice
      if (error.isNegative == p.isNegative) && (moved.sub sum).same twice then moved else sum
    | (sum, _, []) => sum

def sum (xs : List Number) : Except SumFault Number := do
  let s ← xs.foldlM Partials.insert Partials.empty
  if s.special.isZero then return s.total
  else if s.infinities.isNaN then throw .opposedInfinities
  else return s.special

end Number

end DynLisp
