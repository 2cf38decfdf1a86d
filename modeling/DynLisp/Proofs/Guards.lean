import DynLisp.Library.Sequence
import DynLisp.Proofs.Numeral

/-! Guards, and what the host would refuse without them. A whole number is always converted to
an integer, and one that is below the length of a list is the position of an item. -/

namespace DynLisp

namespace Number

variable {x : Number} {i : Int}

theorem truncateWhole (whole : x.toInt? = some i) : x.truncate = .ok i := by
  have same : x.truncate? = some i := by
    cases x with
    | finite negative r =>
      simp only [toInt?] at whole
      split at whole
      · exact whole
      · cases whole
    | _ => cases whole
  rw [truncate, same]

theorem integerConverts (integral : x.isInteger = true) : ∃ i, x.truncate = .ok i := by
  obtain ⟨i, whole⟩ := Option.isSome_iff_exists.1 integral
  exact ⟨i, truncateWhole whole⟩

theorem belowIff (whole : x.toInt? = some i) (n : Nat) :
    x.isBelow n = true ↔ 0 ≤ i ∧ i < n := by
  have positive : (0 : Int) < unity := Int.natCast_pos.2 unityPositive
  rw [isBelow, toIntIff.1 whole]
  simp only [Bool.and_eq_true, decide_eq_true_eq]
  rw [Int.mul_lt_mul_right positive, Int.mul_nonneg_iff_of_pos_right positive]

end Number

theorem Value.asIntegerWhole {x : Number} {n : Int} (whole : x.toInt? = some n) :
    (number x).asInteger = .ok n := by
  have integral : x.isInteger = true := Option.isSome_iff_exists.2 ⟨n, whole⟩
  show (if x.isInteger then x.truncate else _) = _
  rw [if_pos integral, Number.truncateWhole whole]

theorem Value.asIntegerFraction {x : Number} (fraction : x.toInt? = none) :
    (number x).asInteger = mismatch [.number] (number x) := by
  have integral : ¬ x.isInteger = true := by simp [Number.isInteger, fraction]
  exact if_neg integral

namespace Library

variable {items : List Value}

theorem accessItem {i : Nat} (within : i < items.length) : access items i = .ok items[i] := by
  have front : ¬ (i : Int) < 0 := Int.not_lt.2 (Int.natCast_nonneg i)
  simp only [access, if_neg front, Int.toNat_natCast, List.getElem?_eq_getElem within]

/-- Behind both guards neither the conversion fails nor the access. -/
theorem accessGuarded {x : Number} (integral : x.isInteger = true)
    (below : x.isBelow items.length = true) :
    ∃ item ∈ items, (do access items (← x.truncate)) = .ok item := by
  obtain ⟨i, whole⟩ := Option.isSome_iff_exists.1 integral
  obtain ⟨nonnegative, within⟩ := (Number.belowIff whole _).1 below
  obtain ⟨i, rfl⟩ := Int.eq_ofNat_of_zero_le nonnegative
  have inside : i < items.length := Int.ofNat_lt.1 within
  exact ⟨items[i], List.getElem_mem inside, by rw [Number.truncateWhole whole]; exact accessItem inside⟩

theorem accessFirst (some : items.isEmpty = false) : ∃ item ∈ items, access items 0 = .ok item := by
  cases items with
  | nil => cases some
  | cons item rest => exact ⟨item, .head _, rfl⟩

end Library

end DynLisp
