/-!
Numbers of the language: the values of a 64-bit binary floating-point format, without payloads but
with a mark on each "not a number", so that the same one reached twice can be recognised.

Every finite magnitude is a whole number of steps of `2 ^ -1074`, of which `unity` make one.
Magnitudes are stored as their rank, the position in increasing order; `steps` turns a rank into
steps, `nearest` rounds a quotient back to a rank, to the nearest and in a tie to the even one. Each
operation works on exact integers and rounds once. `nearestSteps` says that rounding changes no
magnitude.
-/

namespace DynLisp

/-- Ranks from here on lie above every finite magnitude. -/
def rankLimit : Nat := 0x7FF0000000000000

def unity : Nat := 1 <<< 1074

inductive Number where
  | nan (mark : Nat)
  | infinite (negative : Bool)
  | finite (negative : Bool) (rank : Fin rankLimit)
  deriving DecidableEq, Repr

/-- The exact size, in steps, of the magnitude of a rank. -/
def steps (rank : Nat) : Nat :=
  let shift := rank >>> 52 - 1
  (rank - shift <<< 52) <<< shift

/-- The rank of the greatest magnitude of at most `n` steps. -/
def rankBelow (n : Nat) : Nat :=
  let shift := n.log2 - 52
  n >>> shift + shift <<< 52

/-- The rank nearest to `num / den` steps; a tie goes to the even rank. -/
def nearest (num den : Nat) : Nat :=
  let rank := rankBelow (num / den)
  let middle := den * (steps rank + steps (rank + 1))
  if 2 * num < middle then rank
  else if 2 * num = middle then rank + rank % 2
  else rank + 1

theorem stepsLtSucc (rank : Nat) : steps rank < steps (rank + 1) := by
  unfold steps
  simp only [Nat.shiftRight_eq_div_pow _ 52, Nat.shiftLeft_eq]
  generalize hs : rank / 2 ^ 52 - 1 = s
  by_cases same : (rank + 1) / 2 ^ 52 - 1 = s
  · rw [same]
    exact Nat.mul_lt_mul_of_pos_right (by omega) (Nat.two_pow_pos s)
  · have next : (rank + 1) / 2 ^ 52 - 1 = s + 1 := by omega
    have more : rank - s * 2 ^ 52 < (rank + 1 - (s + 1) * 2 ^ 52) * 2 := by omega
    have double : 2 ^ (s + 1) = 2 * 2 ^ s := Nat.pow_succ'
    rw [next, double, ← Nat.mul_assoc]
    exact Nat.mul_lt_mul_of_pos_right more (Nat.two_pow_pos s)

theorem log2Shifted {m s : Nat} (leading : m >>> 52 = 1) : (m <<< s).log2 = 52 + s := by
  rw [Nat.shiftRight_eq_div_pow] at leading
  have low : 2 ^ 52 ≤ m := by omega
  have high : m < 2 ^ 53 := by omega
  have positive : m <<< s ≠ 0 := by
    rw [Nat.shiftLeft_eq]
    exact Nat.ne_of_gt (Nat.mul_pos (by omega) (Nat.two_pow_pos s))
  refine (Nat.log2_eq_iff positive).2 ⟨?_, ?_⟩ <;> rw [Nat.shiftLeft_eq]
  · rw [Nat.pow_add]
    exact Nat.mul_le_mul_right _ low
  · rw [Nat.add_right_comm, Nat.pow_add]
    exact Nat.mul_lt_mul_of_pos_right high (Nat.two_pow_pos s)

theorem rankBelowSteps (rank : Nat) : rankBelow (steps rank) = rank := by
  unfold rankBelow steps
  dsimp only
  rw [Nat.shiftRight_eq_div_pow rank]
  by_cases small : rank < 2 ^ 53
  · have zero : rank / 2 ^ 52 - 1 = 0 := by omega
    have log : rank.log2 - 52 = 0 := by
      rcases Nat.eq_zero_or_pos rank with rfl | positive
      · rfl
      · have := (Nat.log2_lt (Nat.ne_of_gt positive)).2 small
        omega
    rw [zero, Nat.shiftLeft_zero, Nat.zero_shiftLeft, Nat.sub_zero, log, Nat.shiftRight_zero,
      Nat.zero_shiftLeft, Nat.add_zero]
  · generalize hs : rank / 2 ^ 52 - 1 = s
    have leading : (rank - s * 2 ^ 52) >>> 52 = 1 := by
      rw [Nat.shiftRight_eq_div_pow]
      omega
    rw [Nat.shiftLeft_eq s, log2Shifted leading, Nat.add_sub_cancel_left,
      Nat.shiftLeft_shiftRight, Nat.shiftLeft_eq]
    omega

/-- A whole magnitude is not rounded. -/
theorem nearestSteps (rank : Nat) {den : Nat} (positive : 0 < den) :
    nearest (steps rank * den) den = rank := by
  have below : 2 * (steps rank * den) < den * (steps rank + steps (rank + 1)) := by
    have := Nat.mul_lt_mul_of_pos_left (stepsLtSucc rank) positive
    rw [Nat.mul_comm (steps rank) den, Nat.mul_add]
    omega
  simp only [nearest, Nat.mul_div_cancel _ positive, rankBelowSteps, if_pos below]

namespace Number

/-- A rank beyond the finite ones stands for infinity. -/
def ofRank (negative : Bool) (rank : Nat) : Number :=
  if h : rank < rankLimit then finite negative ⟨rank, h⟩ else infinite negative

def zero : Number := finite false ⟨0, by decide⟩

def ofRatio (negative : Bool) (num den : Nat) : Number :=
  ofRank negative (nearest (num * unity) den)

def ofSteps (n : Int) : Number := ofRank (decide (n < 0)) (nearest n.natAbs 1)

def ofNat (n : Nat) : Number := ofRatio false n 1

/-- A negative integer keeps its sign; there is no negative zero among integers. -/
def ofInt (n : Int) : Number := ofRatio (decide (n < 0)) n.natAbs 1

def one : Number := ofNat 1

def isNaN : Number → Bool
  | nan _ => true
  | _ => false

def isFinite : Number → Bool
  | finite _ _ => true
  | _ => false

def isNegative : Number → Bool
  | nan _ => false
  | infinite s => s
  | finite s _ => s

def isZero : Number → Bool
  | finite _ r => r.val == 0
  | _ => false

def toSteps? : Number → Option Int
  | finite s r => some (if s then -(steps r) else steps r)
  | _ => none

/-- Signed rank; it orders all numbers except NaN and identifies the two zeros. -/
def position? : Number → Option Int
  | nan _ => none
  | infinite s => some (if s then -rankLimit else rankLimit)
  | finite s r => some (if s then -r.val else r.val)

def lt (x y : Number) : Bool :=
  match x.position?, y.position? with
  | some a, some b => a < b
  | _, _ => false

def le (x y : Number) : Bool :=
  match x.position?, y.position? with
  | some a, some b => a ≤ b
  | _, _ => false

/-- Equal values; a NaN equals only the one with its mark. -/
def same : Number → Number → Bool
  | nan m, nan n => m == n
  | x, y => match x.position?, y.position? with
    | some a, some b => a == b
    | _, _ => false

def withSign (negative : Bool) : Number → Number
  | nan m => nan m
  | infinite _ => infinite negative
  | finite _ r => finite negative r

def neg (x : Number) : Number := x.withSign (!x.isNegative)

def abs (x : Number) : Number := x.withSign false

/-- An exact sum of zero is negative only if both terms are. -/
def add : Number → Number → Number
  | nan _, _ | _, nan _ => nan 0
  | infinite s, infinite t => if s = t then infinite s else nan 0
  | infinite s, finite _ _ => infinite s
  | finite _ _, infinite t => infinite t
  | finite s r, finite t q =>
    let sum := (if s then -(steps r : Int) else steps r) + (if t then -(steps q : Int) else steps q)
    if sum = 0 then zero.withSign (s && t) else ofSteps sum

def sub (x y : Number) : Number := x.add y.neg

def mul : Number → Number → Number
  | nan _, _ | _, nan _ => nan 0
  | infinite s, infinite t => infinite (s != t)
  | infinite s, finite t q => if q.val = 0 then nan 0 else infinite (s != t)
  | finite s r, infinite t => if r.val = 0 then nan 0 else infinite (s != t)
  | finite s r, finite t q => ofRank (s != t) (nearest (steps r * steps q) unity)

def div : Number → Number → Number
  | nan _, _ | _, nan _ => nan 0
  | infinite _, infinite _ => nan 0
  | infinite s, finite t _ => infinite (s != t)
  | finite s _, infinite t => zero.withSign (s != t)
  | finite s r, finite t q =>
    if q.val = 0 then (if r.val = 0 then nan 0 else infinite (s != t))
    else ofRank (s != t) (nearest (steps r * unity) (steps q))

/-- The remainder of division truncated toward zero; it has the sign of the dividend. -/
def rem : Number → Number → Number
  | nan _, _ | _, nan _ => nan 0
  | infinite _, _ => nan 0
  | x@(finite _ _), infinite _ => x
  | finite s r, finite _ q =>
    if q.val = 0 then nan 0 else ofRank s (nearest (steps r % steps q) 1)

/-- The remainder with the sign of the divisor, also when it is zero. -/
def mod (x d : Number) : Number :=
  let r := x.rem d
  if r.isNaN then r
  else if r.isZero then r.withSign d.isNegative
  else if r.isNegative != d.isNegative then r.add d
  else r

def toInt? : Number → Option Int
  | finite s r =>
    if steps r % unity = 0 then
      some (if s then -(steps r / unity : Nat) else (steps r / unity : Nat))
    else none
  | _ => none

def isInteger (x : Number) : Bool := x.toInt?.isSome

/-- Not negative and less than `n`, without rounding. -/
def isBelow (n : Nat) (x : Number) : Bool :=
  match x.toSteps? with
  | some steps => 0 ≤ steps && steps < n * unity
  | none => false

def truncate? : Number → Option Int
  | finite s r => some (if s then -(steps r / unity : Nat) else (steps r / unity : Nat))
  | _ => none

end Number

end DynLisp
