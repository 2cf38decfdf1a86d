import Mathlib.Data.List.Basic
import DynLisp.Number.Numeral
import DynLisp.Proofs.NumberText

/-! What is written for a finite number reads back as that number. A shortest numeral was
chosen because it does, so that only its shape is left to prove; whole numbers, and the
numeral with every digit, stand for the number exactly. -/

namespace DynLisp

open Decimal

theorem asciiDigitValue {c : Char} (h : c.isDigit = true) :
    digitValue? c = some (c.toNat - 48) := by
  have range : 48 ≤ c.toNat ∧ c.toNat ≤ 57 := by
    simpa [Char.isDigit, UInt32.le_iff_toNat_le] using h
  have found : (48 ≤ c.toNat && c.toNat < 48 + 10) = true := by simp; omega
  simp only [digitValue?, digitZeros, List.find?_cons, found]
  rfl

theorem asciiIsDigit {c : Char} (h : c.isDigit = true) : isDigit c = true := by
  rw [isDigit, asciiDigitValue h]
  rfl

theorem decimalIsDigit (n : Nat) : ∀ c ∈ Nat.toDigits 10 n, isDigit c = true :=
  fun _ member => asciiIsDigit (Nat.isDigit_of_mem_toDigits (by decide) (by decide) member)

theorem asciiDigitsValue {cs : List Char} (h : ∀ c ∈ cs, c.isDigit = true) :
    digitsValue cs = Nat.ofDigitChars 10 cs 0 := by
  refine List.foldl_ext _ _ 0 fun n c member => ?_
  rw [asciiDigitValue (h c member)]
  rfl

theorem decimalDigitsValue (n : Nat) : digitsValue (Nat.toDigits 10 n) = n := by
  rw [asciiDigitsValue fun _ => Nat.isDigit_of_mem_toDigits (by decide) (by decide),
    Nat.ofDigitChars_ten_toDigits]

theorem zerosDigits (n : Nat) : ∀ c ∈ zeros n, isDigit c = true := by
  intro c member
  rw [(List.mem_replicate.1 member).2]
  decide

theorem positionalText (negative : Bool) {ds : List Char} (some : ds ≠ [])
    (digits : ∀ c ∈ ds, isDigit c = true) (point : Int) :
    ∃ d, UnsignedText negative (positional ds point) d := by
  have zero : ∀ c ∈ ['0'], isDigit c = true := List.all_eq_true.1 (by decide)
  unfold positional
  split
  · have fraction := List.forall_mem_append.2 ⟨zerosDigits (-point).toNat, digits⟩
    exact ⟨_, by simpa using UnsignedText.point (by simp) zero fraction .none⟩
  · split
    · have whole := List.forall_mem_append.2 ⟨digits, zerosDigits (point.toNat - ds.length)⟩
      exact ⟨_, by simpa using UnsignedText.point (by simp [some]) whole zero .none⟩
    · have front : ds.take point.toNat ≠ [] := by
        rw [ne_eq, List.take_eq_nil_iff, not_or]
        exact ⟨by omega, some⟩
      have whole : ∀ c ∈ ds.take point.toNat, isDigit c = true :=
        fun c member => digits c (List.mem_of_mem_take member)
      have fraction : ∀ c ∈ ds.drop point.toNat, isDigit c = true :=
        fun c member => digits c (List.mem_of_mem_drop member)
      exact ⟨_, by simpa using UnsignedText.point front whole fraction .none⟩

theorem exponentDigitsText (n : Nat) :
    exponentDigits n ≠ [] ∧ ∀ c ∈ exponentDigits n, isDigit c = true :=
  ⟨by simp [exponentDigits], List.forall_mem_append.2 ⟨zerosDigits _, decimalIsDigit n⟩⟩

theorem scientificText (negative : Bool) {ds : List Char} (some : ds ≠ [])
    (digits : ∀ c ∈ ds, isDigit c = true) (e : Int) :
    ∃ d, UnsignedText negative (scientific ds e) d := by
  obtain ⟨there, all⟩ := exponentDigitsText e.natAbs
  obtain ⟨x, exponent⟩ : ∃ x, ExponentText
      ('e' :: (if e < 0 then '-' else '+') :: exponentDigits e.natAbs) x := by
    split
    · exact ⟨_, .minus (.inl rfl) there all⟩
    · exact ⟨_, .plus (.inl rfl) there all⟩
  have front : ds.take 1 ≠ [] := by simpa [List.take_eq_nil_iff] using some
  have whole : ∀ c ∈ ds.take 1, isDigit c = true :=
    fun c member => digits c (List.mem_of_mem_take member)
  have fraction : ∀ c ∈ ds.drop 1, isDigit c = true :=
    fun c member => digits c (List.mem_of_mem_drop member)
  unfold scientific
  split
  · exact ⟨_, by simpa using UnsignedText.whole front whole exponent⟩
  · exact ⟨_, by simpa using UnsignedText.point front whole fraction exponent⟩

theorem signedText {negative : Bool} {cs : List Char} {d : Decimal}
    (h : UnsignedText negative cs d) :
    NumberText ((if negative then ['-'] else []) ++ cs) d := by
  cases negative with
  | true => exact .minus h
  | false => exact .plain h

theorem decimalText (negative : Bool) (n : Nat) {exponent : List Char} {e : Int}
    (rest : ExponentText exponent e) :
    UnsignedText negative (Nat.toDigits 10 n ++ exponent) ⟨negative, n, e⟩ := by
  have text : UnsignedText negative _ _ := .whole Nat.toDigits_ne_nil (decimalIsDigit n) rest
  rwa [decimalDigitsValue] at text

theorem layoutText (d : Decimal) : ∃ e, NumberText d.layout e := by
  have chosen : ∀ ds : List Char, ds ≠ [] → (∀ c ∈ ds, isDigit c = true) → ∀ point : Int,
      ∃ e, UnsignedText d.negative (if -4 < point && point ≤ 16 then positional ds point
        else scientific ds (point - 1)) e := by
    intro ds some digits point
    split
    · exact positionalText _ some digits point
    · exact scientificText _ some digits (point - 1)
  have significant : ∀ c ∈ ((Nat.toDigits 10 d.coefficient).reverse.dropWhile (· == '0')).reverse,
      isDigit c = true := by
    intro c member
    have inside := (List.dropWhile_sublist _).mem (List.mem_reverse.1 member)
    exact decimalIsDigit d.coefficient c (List.mem_reverse.1 inside)
  simp only [layout]
  generalize ((Nat.toDigits 10 d.coefficient).reverse.dropWhile (· == '0')).reverse = ds
    at significant
  obtain ⟨e, text⟩ := chosen (if ds.isEmpty then ['0'] else ds) (by split <;> simp_all)
    (by split <;> first | exact significant | exact List.all_eq_true.1 (by decide)) _
  exact ⟨e, signedText text⟩

namespace Number

theorem ofRankFinite (negative : Bool) (r : Fin rankLimit) :
    ofRank negative r.val = finite negative r := by
  rw [ofRank, dif_pos r.isLt]

theorem unityPow {places : Nat} (all : places = 1074) : unity = Nat.pow 2 places := by
  rw [all]
  exact Nat.one_shiftLeft 1074

theorem log2Fives {n k : Nat} (h : Nat.pow 5 k ≤ n) : 2 * k ≤ n.log2 := by
  have some : n ≠ 0 := Nat.ne_of_gt (Nat.lt_of_lt_of_le (Nat.pow_pos (by decide)) h)
  refine (Nat.le_log2 some).2 ?_
  calc 2 ^ (2 * k) = 4 ^ k := Nat.pow_mul 2 2 k
    _ ≤ 5 ^ k := Nat.pow_le_pow_left (by decide) k
    _ ≤ n := h

theorem exactDecimal (negative : Bool) (r : Fin rankLimit) (positive : steps r.val ≠ 0)
    (places e : Nat) (all : places = 1074) (last : places = e + 1) :
    Decimal.toNumber ⟨negative, steps r.val * Nat.pow 5 places, .negSucc e⟩ =
      finite negative r := by
  have large : Nat.pow 5 places ≤ steps r.val * Nat.pow 5 places :=
    Nat.le_mul_of_pos_left _ (Nat.pos_of_ne_zero positive)
  have log := log2Fives large
  have some : steps r.val * Nat.pow 5 places ≠ 0 :=
    Nat.mul_ne_zero positive (Nat.ne_of_gt (Nat.pow_pos (by decide)))
  have small : ¬ (steps r.val * Nat.pow 5 places).log2 + 1100 < 3 * (e + 1) := by omega
  have tens : steps r.val * Nat.pow 5 places * unity = steps r.val * Nat.pow 10 places := by
    rw [unityPow all, Nat.mul_assoc]
    exact congrArg (steps r.val * ·) (Nat.mul_pow 5 2 places).symm
  have read : nearest (steps r.val * Nat.pow 10 places) (Nat.pow 10 places) = r.val :=
    nearestSteps r.val (Nat.pow_pos (by decide))
  simp only [Decimal.toNumber, if_neg some, if_neg small, ofRatio]
  rw [tens, ← last, read, ofRankFinite]

theorem exactNumeralText (negative : Bool) (r : Fin rankLimit) (positive : steps r.val ≠ 0) :
    ∃ d, NumberText (exactNumeral negative r.val).toList d ∧ d.toNumber = finite negative r := by
  have exponent : ExponentText "e-1074".toList (.negSucc 1073) :=
    .minus (.inl rfl) (by simp) (List.all_eq_true.1 (by decide))
  have value := exactDecimal negative r positive 1074 1073 rfl rfl
  unfold exactNumeral
  generalize steps r.val * Nat.pow 5 1074 = n at value ⊢
  rw [String.toList_ofList, List.append_assoc]
  exact ⟨_, signedText (decimalText negative n exponent), value⟩

theorem stepsZero {rank : Nat} (h : steps rank = 0) : rank = 0 := by
  have back := rankBelowSteps rank
  rw [h] at back
  exact back.symm

theorem finiteNumeralText (negative : Bool) (r : Fin rankLimit) :
    ∃ d, NumberText (finiteNumeral negative r).toList d ∧ d.toNumber = finite negative r := by
  by_cases zero : r.val = 0
  · have digit : ∀ c ∈ ['0'], isDigit c = true := List.all_eq_true.1 (by decide)
    have text : UnsignedText negative ['0', '.', '0'] ⟨negative, digitsValue ['0', '0'], -1⟩ :=
      .point (by simp) digit digit .none
    refine ⟨⟨negative, digitsValue ['0', '0'], -1⟩, ?_, ?_⟩
    · rw [finiteNumeral, if_pos zero]
      have shown : (if negative then "-0.0" else "0.0").toList =
          (if negative then ['-'] else []) ++ ['0', '.', '0'] := by
        cases negative <;> decide
      rw [shown]
      exact signedText text
    · have same : r = ⟨0, by decide⟩ := Fin.ext zero
      rw [same]
      exact if_pos (show digitsValue ['0', '0'] = 0 by decide)
  · have positive : steps r.val ≠ 0 := fun none => zero (stepsZero none)
    rw [finiteNumeral, if_neg zero]
    dsimp only
    cases found : List.findSome? _ _ with
    | none => exact exactNumeralText negative r positive
    | some text =>
      obtain ⟨count, _, found⟩ := List.exists_of_findSome?_eq_some found
      -- The text was chosen for being read back; what remains is that its shape is a number's.
      have reads := List.find?_some found
      obtain ⟨d, _, rfl⟩ := List.mem_map.1 (List.mem_of_find?_eq_some found)
      obtain ⟨e, text⟩ := layoutText d
      rw [numberTextRead text] at reads
      exact ⟨e, by simpa using text, by simpa using reads⟩

theorem integerText (n : Int) :
    NumberText (toString n).toList ⟨decide (n < 0), n.natAbs, 0⟩ := by
  have unsigned (negative : Bool) (m : Nat) :
      UnsignedText negative (Nat.toDigits 10 m) ⟨negative, m, 0⟩ := by
    simpa using decimalText negative m .none
  rw [Int.toString_eq_repr, Int.repr_eq_if]
  split
  · rename_i natural
    have size : n.toNat = n.natAbs := by omega
    rw [Nat.toList_repr, size, decide_eq_false (by omega)]
    exact .plain (unsigned false _)
  · rename_i negative
    have size : (-n).toNat = n.natAbs := by omega
    rw [String.toList_append, Nat.toList_repr, size, decide_eq_true (by omega)]
    exact .minus (unsigned true _)

theorem sameRefl (negative : Bool) (r : Fin rankLimit) :
    (finite negative r).same (finite negative r) = true := by
  simp [same, position?]

theorem unityPositive : 0 < unity := by decide

theorem signedNat {negative : Bool} {size : Nat} {n : Int} :
    (if negative then -(size : Int) else size) = n ↔
      size = n.natAbs ∧ (n ≠ 0 → decide (n < 0) = negative) := by
  cases negative <;> simp <;> omega

theorem signedProduct {negative : Bool} {size u : Nat} {n : Int} (positive : 0 < u) :
    (if negative then -(size : Int) else size) = n * u ↔
      size = n.natAbs * u ∧ (n ≠ 0 → decide (n < 0) = negative) := by
  have above : (0 : Int) < u := Int.natCast_pos.2 positive
  have below : n * u < 0 ↔ n < 0 := by
    have := Int.mul_lt_mul_right (b := n) (c := 0) above
    rwa [Int.zero_mul] at this
  have zero : n * u = 0 ↔ n = 0 := by
    rw [Int.mul_eq_zero]
    omega
  rw [signedNat, Int.natAbs_mul, Int.natAbs_natCast, ne_eq, zero, decide_eq_decide.2 below]

theorem toIntIff {x : Number} {n : Int} :
    x.toInt? = some n ↔ x.toSteps? = some (n * unity) := by
  cases x with
  | finite negative r =>
    have positive := unityPositive
    simp only [toInt?, toSteps?]
    generalize unity = u at positive
    generalize steps r.val = size
    rw [Option.some.injEq, signedProduct positive]
    constructor
    · intro whole
      split at whole
      · rename_i exact
        obtain ⟨quotient, sign⟩ := signedNat.1 (Option.some.inj whole)
        exact ⟨by rw [← quotient, Nat.div_mul_cancel (Nat.dvd_of_mod_eq_zero exact)], sign⟩
      · cases whole
    · rintro ⟨rfl, sign⟩
      rw [if_pos (Nat.mul_mod_left _ _), Nat.mul_div_cancel _ positive]
      exact congrArg some (signedNat.2 ⟨rfl, sign⟩)
  | _ => simp [toInt?, toSteps?]

theorem ofIntSame {x : Number} {n : Int} (whole : x.toInt? = some n) :
    ∃ s r, ofInt n = finite s r ∧ (finite s r).same x = true := by
  rw [toIntIff] at whole
  cases x with
  | finite negative r =>
    obtain ⟨size, sign⟩ := (signedProduct unityPositive).1 (Option.some.inj whole)
    refine ⟨decide (n < 0), r, ?_, ?_⟩
    · have scaled : n.natAbs * unity = steps r.val * 1 := by rw [size, Nat.mul_one]
      rw [ofInt, ofRatio, scaled, nearestSteps r.val Nat.one_pos, ofRankFinite]
    · by_cases zero : n = 0
      · have rank : r = ⟨0, by decide⟩ := Fin.ext (stepsZero (by simpa [zero] using size))
        subst rank
        cases negative <;> subst zero <;> rfl
      · rw [sign zero, sameRefl]
  | _ => cases whole

theorem decimalInteger (n : Int) :
    Decimal.toNumber ⟨decide (n < 0), n.natAbs, .ofNat 0⟩ = ofInt n := by
  rcases Nat.eq_zero_or_pos n.natAbs with none | some
  · have scaled : 0 * unity = steps 0 * 1 := by rw [Nat.zero_mul, Nat.mul_one, steps]; decide
    have positive : ¬ n < 0 := by omega
    simp only [Decimal.toNumber, if_pos none, ofInt, ofRatio]
    rw [none, scaled, nearestSteps 0 Nat.one_pos, decide_eq_false positive]
    exact (ofRankFinite false ⟨0, by decide⟩).symm
  · have unscaled : n.natAbs * Nat.pow 10 0 = n.natAbs := Nat.mul_one _
    simp only [Decimal.toNumber, if_neg (Nat.ne_of_gt some), ofInt, ofRatio]
    rw [unscaled, if_neg (by decide)]

theorem wholeDecimal (negative : Bool) (r : Fin rankLimit) {n : Int}
    (whole : (finite negative r).toInt? = some n) :
    (Decimal.toNumber ⟨decide (n < 0), n.natAbs, 0⟩).same (finite negative r) = true := by
  obtain ⟨s, q, read, equal⟩ := ofIntSame whole
  exact (decimalInteger n).trans read ▸ equal

theorem sourceText (negative : Bool) (r : Fin rankLimit) :
    ∃ d, NumberText (finite negative r).source.toList d ∧
      d.toNumber.same (finite negative r) = true := by
  obtain ⟨d, text, read⟩ := finiteNumeralText negative r
  have shown : ∃ d, NumberText (finite negative r).numeral.toList d ∧
      d.toNumber.same (finite negative r) = true := ⟨d, text, by rw [read, sameRefl]⟩
  unfold source
  split
  · rename_i n whole
    split
    · exact ⟨_, integerText n, wholeDecimal negative r whole⟩
    · exact shown
  · exact shown

end Number

end DynLisp
