import DynLisp.Number.Basic

/-! Where rounding leaves the finite numbers. Every count of steps lies between the steps of
two neighbouring ranks. A whole number is rounded to a finite one if it lies below the middle
between the greatest magnitude and the next power of two; the middle itself goes to infinity. One
of at most 53 binary digits is not rounded at all. -/

namespace DynLisp

theorem stepsMono {a b : Nat} (h : a ≤ b) : steps a ≤ steps b := by
  induction h with
  | refl => exact Nat.le_refl _
  | step _ ih => exact Nat.le_trans ih (Nat.le_of_lt (stepsLtSucc _))

theorem stepsLt {i j : Nat} : steps i < steps j ↔ i < j := by
  constructor
  · intro less
    refine Nat.lt_of_not_le fun back => ?_
    have := stepsMono back
    omega
  · intro less
    exact Nat.lt_of_lt_of_le (stepsLtSucc i) (stepsMono (Nat.succ_le_of_lt less))

theorem stepsSmall {rank : Nat} (small : rank < 1 <<< 53) : steps rank = rank := by
  have shift : rank >>> 52 - 1 = 0 := by
    rw [Nat.shiftRight_eq_div_pow]
    omega
  unfold steps
  dsimp only
  rw [shift]
  simp

theorem stepsNormal {m : Nat} (leading : m >>> 52 = 1) (s : Nat) :
    steps (m + s <<< 52) = m <<< s := by
  rw [Nat.shiftRight_eq_div_pow] at leading
  have shift : (m + s <<< 52) >>> 52 - 1 = s := by
    rw [Nat.shiftRight_eq_div_pow, Nat.shiftLeft_eq]
    omega
  unfold steps
  dsimp only
  rw [shift, Nat.add_sub_cancel]

theorem stepsNext {m : Nat} (leading : m >>> 52 = 1) (s : Nat) :
    steps (m + s <<< 52 + 1) = (m + 1) <<< s := by
  by_cases same : (m + 1) >>> 52 = 1
  · rw [Nat.add_right_comm]
    exact stepsNormal same s
  · -- The last magnitude of its size: the next is the first of double size.
    rw [Nat.shiftRight_eq_div_pow] at leading same
    have rank : m + s <<< 52 + 1 = 0x10000000000000 + (s + 1) <<< 52 := by
      simp only [Nat.shiftLeft_eq]
      omega
    have half : m + 1 = 2 * 0x10000000000000 := by omega
    rw [rank, stepsNormal (by decide), half]
    exact Nat.shiftLeft_succ_inside _ s

theorem rankBelowAround (n : Nat) :
    steps (rankBelow n) ≤ n ∧ n < steps (rankBelow n + 1) := by
  by_cases small : n.log2 < 52
  · have same : rankBelow n = n := by
      have none : n.log2 - 52 = 0 := by omega
      unfold rankBelow
      dsimp only
      rw [none, Nat.shiftRight_zero, Nat.zero_shiftLeft, Nat.add_zero]
    have below : n < 1 <<< 53 := by
      have := Nat.lt_log2_self (n := n)
      have := Nat.pow_le_pow_right (n := 2) (by decide) (show n.log2 + 1 ≤ 53 by omega)
      omega
    have next := stepsLtSucc n
    rw [stepsSmall below] at next
    rw [same, stepsSmall below]
    exact ⟨Nat.le_refl n, next⟩
  · obtain ⟨s, size⟩ := Nat.exists_eq_add_of_le (Nat.le_of_not_lt small)
    have some : n ≠ 0 := by
      intro none
      simp [none] at small
    have leading : n >>> s >>> 52 = 1 := by
      rw [← Nat.shiftRight_add, Nat.add_comm, ← size, Nat.shiftRight_eq_div_pow]
      have low := Nat.log2_self_le some
      have high := Nat.lt_log2_self (n := n)
      refine Nat.div_eq_of_lt_le ?_ ?_ <;> omega
    have rank : rankBelow n = n >>> s + s <<< 52 := by
      unfold rankBelow
      dsimp only
      rw [size, Nat.add_sub_cancel_left]
    rw [rank]
    constructor
    · rw [stepsNormal leading]
      simpa [Nat.shiftLeft_eq, Nat.shiftRight_eq_div_pow] using Nat.div_mul_le_self n (2 ^ s)
    · have above := Nat.lt_mul_div_succ n (Nat.two_pow_pos s)
      rw [stepsNext leading]
      simpa [Nat.shiftLeft_eq, Nat.shiftRight_eq_div_pow, Nat.mul_comm] using above

/-- The first whole number that is rounded beyond the finite ones. -/
def Number.integerLimit : Nat := 1 <<< 1024 - 1 <<< 970

theorem nearestFinite (num : Nat) :
    nearest num 1 < rankLimit ↔ 2 * num < steps (rankLimit - 1) + steps rankLimit := by
  obtain ⟨low, high⟩ := rankBelowAround num
  have next : rankLimit - 1 + 1 = rankLimit := rfl
  have odd : (rankLimit - 1) % 2 = 1 := rfl
  have last := stepsLtSucc (rankLimit - 1)
  rw [next] at last
  unfold nearest
  simp only [Nat.div_one, Nat.one_mul]
  generalize rankBelow num = rank at low high
  rcases Nat.lt_trichotomy rank (rankLimit - 1) with below | rfl | above
  · have := stepsMono (show rank + 1 ≤ rankLimit - 1 by omega)
    refine iff_of_true ?_ (by omega)
    split
    · omega
    · split <;> omega
  · rw [next, odd]
    split
    · exact iff_of_true (by omega) (by assumption)
    · refine iff_of_false ?_ (by assumption)
      split <;> omega
  · have := stepsMono (show rankLimit ≤ rank by omega)
    refine iff_of_false ?_ (by omega)
    split
    · omega
    · split <;> omega

theorem Number.ofNatFinite (n : Nat) : (ofNat n).isFinite = true ↔ n < integerLimit := by
  have greatest : steps (rankLimit - 1) = 0x1FFFFFFFFFFFFF <<< 2045 := stepsNormal (by decide) 2045
  have beyond : steps rankLimit = 0x10000000000000 <<< 2046 := stepsNormal (by decide) 2046
  have middle := nearestFinite (n * unity)
  rw [greatest, beyond] at middle
  have rank : (ofNat n).isFinite = true ↔ nearest (n * unity) 1 < rankLimit := by
    simp only [ofNat, ofRatio, ofRank]
    split <;> simp_all [isFinite]
  have scaled : 0x1FFFFFFFFFFFFF <<< 2045 + 0x10000000000000 <<< 2046 = integerLimit * (2 * unity) := by
    decide +kernel
  have positive : 0 < 2 * unity := by decide +kernel
  rw [rank, middle, scaled, Nat.mul_left_comm]
  exact Nat.mul_lt_mul_right positive

theorem wholeSteps {n : Nat} (small : n < 1 <<< 53) : ∃ rank < rankLimit, steps rank = n * unity := by
  rcases Nat.eq_zero_or_pos n with rfl | positive
  · exact ⟨0, by decide, by rw [Nat.zero_mul]; rfl⟩
  · have low := Nat.log2_self_le (Nat.ne_of_gt positive)
    have high := Nat.lt_log2_self (n := n)
    have size : n.log2 < 53 := (Nat.log2_lt (Nat.ne_of_gt positive)).2 small
    obtain ⟨free, digits⟩ := Nat.exists_eq_add_of_le (Nat.le_of_lt_succ size)
    have leading : n <<< free >>> 52 = 1 := by
      rw [Nat.shiftLeft_eq, Nat.shiftRight_eq_div_pow, digits, Nat.pow_add,
        Nat.mul_div_mul_right _ _ (Nat.two_pow_pos free)]
      refine Nat.div_eq_of_lt_le ?_ ?_ <;> omega
    have units : unity = 1 <<< (free + (1022 + n.log2)) := by
      have all : free + (1022 + n.log2) = 1074 := by omega
      rw [all]
      rfl
    refine ⟨n <<< free + (1022 + n.log2) <<< 52, ?_, ?_⟩
    · rw [Nat.shiftRight_eq_div_pow] at leading
      rw [Nat.shiftLeft_eq (1022 + n.log2)]
      unfold rankLimit
      omega
    · rw [stepsNormal leading, units]
      simp only [Nat.shiftLeft_eq, Nat.one_mul, Nat.pow_add, Nat.mul_assoc]

theorem Number.ofNatExact {n : Nat} (small : n < 1 <<< 53) :
    (ofNat n).toSteps? = some ((n : Int) * unity) := by
  obtain ⟨rank, finite, size⟩ := wholeSteps small
  have scaled : n * unity = steps rank * 1 := by rw [size, Nat.mul_one]
  rw [ofNat, ofRatio, scaled, nearestSteps rank Nat.one_pos, ofRank, dif_pos finite,
    ← Int.natCast_mul, ← size]
  rfl

theorem Number.ltSteps {x y : Number} {a b : Int} (left : x.toSteps? = some a)
    (right : y.toSteps? = some b) : x.lt y = true ↔ a < b := by
  cases x with
  | finite s r =>
    cases y with
    | finite t q =>
      cases left
      cases right
      have forth : steps r.val < steps q.val ↔ r.val < q.val := stepsLt
      have back : steps q.val < steps r.val ↔ q.val < r.val := stepsLt
      have zero : steps 0 = 0 := rfl
      have first : steps 0 < steps r.val ↔ 0 < r.val := stepsLt
      have second : steps 0 < steps q.val ↔ 0 < q.val := stepsLt
      simp only [lt, position?, decide_eq_true_eq]
      cases s <;> cases t <;> simp only [if_true, Bool.false_eq_true, if_false] <;> omega
    | _ => cases right
  | _ => cases left

end DynLisp
