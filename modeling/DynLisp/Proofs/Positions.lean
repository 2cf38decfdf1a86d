import DynLisp.Proofs.Guards
import DynLisp.Proofs.Rounding
import DynLisp.Proofs.Settled

/-! Positions in lists. The item at a position is what `nth` gives, what is first after as many
steps of `tail`, and where the list was put together of others, what that list has there from
which the position comes. A position that no item has is one fault, whoever looks. -/

namespace DynLisp

open Evaluator

/-- The item at a position, counted from zero. -/
def itemAt (items : List Value) : Int → Except Fault Value
  | .ofNat i => items[i]?.elim (.error (.lisp .emptyList)) .ok
  | .negSucc _ => .error (.lisp .emptyList)

namespace Value

/-- The items of a list; `nil` has none. -/
def items : Value → List Value
  | list xs => xs
  | _ => []

def Listed (v : Value) : Prop := v = .nil ∨ ∃ xs, v = .list xs

/-- `(tail (tail ... form))`. -/
def tails (form : Value) : Nat → Value
  | 0 => form
  | i + 1 => calling "tail" [form.tails i]

theorem Listed.given {v : Value} (listed : v.Listed) : v.asListOrNil = .ok v.items := by
  obtain rfl | ⟨xs, rfl⟩ := listed <;> rfl

end Value

section

variable {items : List Value}

theorem itemFound {i : Nat} {v : Value} (found : items[i]? = some v) : itemAt items i = .ok v := by
  show items[i]?.elim _ _ = _
  rw [found]
  rfl

theorem itemBeyond {i : Nat} (beyond : items.length ≤ i) :
    itemAt items i = .error (.lisp .emptyList) := by
  show items[i]?.elim _ _ = _
  rw [List.getElem?_eq_none beyond]
  rfl

theorem itemBelow {i : Int} (below : i < 0) : itemAt items i = .error (.lisp .emptyList) := by
  cases i with
  | ofNat i => cases Int.not_lt.2 (Int.natCast_nonneg i) below
  | negSucc i => rfl

theorem itemAppended {ls : List Value} {i : Nat} (below : i < (ls.map Value.items).flatten.length) :
    ∃ before v after j item, ls = before ++ v :: after ∧
      i = (before.map Value.items).flatten.length + j ∧ v.items[j]? = some item ∧
      (ls.map Value.items).flatten[i]? = some item := by
  induction ls generalizing i with
  | nil => cases below
  | cons v ls ih =>
    rw [List.map_cons, List.flatten_cons] at below ⊢
    rw [List.length_append] at below
    by_cases here : i < v.items.length
    · have found := List.getElem?_eq_getElem here
      refine ⟨[], v, ls, i, v.items[i], rfl, (Nat.zero_add i).symm, found, ?_⟩
      rwa [List.getElem?_append_left here]
    · -- It falls in one of the other lists, counted from where the first one ends.
      obtain ⟨before, w, after, j, item, rfl, place, found, whole⟩ :=
        ih (i := i - v.items.length) (by omega)
      refine ⟨v :: before, w, after, j, item, rfl, ?_, found, ?_⟩
      · rw [List.map_cons, List.flatten_cons, List.length_append]
        omega
      · rwa [List.getElem?_append_right (Nat.le_of_not_lt here)]

end

namespace Library

theorem nthItem {x : Number} {i : Int} (whole : x.toInt? = some i) (items : List Value) :
    nth [.number x, .list items] = itemAt items i := by
  have integral : x.isInteger = true := Option.isSome_iff_exists.2 ⟨i, whole⟩
  have below := Number.belowIff whole items.length
  have guarded : nth [.number x, .list items] =
      if !x.isBelow items.length then .error (.lisp .emptyList)
      else (do access items (← x.truncate)) := by
    show (if !x.isInteger then _ else _) = _
    rw [integral]
    rfl
  rw [guarded, Number.truncateWhole whole]
  by_cases inside : 0 ≤ i ∧ i < items.length
  · obtain ⟨i, rfl⟩ := Int.eq_ofNat_of_zero_le inside.1
    have within : i < items.length := Int.ofNat_lt.1 inside.2
    rw [below.2 inside, itemFound (List.getElem?_eq_getElem within)]
    exact accessItem within
  · rw [Bool.eq_false_iff.2 fun passed => inside (below.1 passed)]
    rcases Int.lt_or_le i 0 with negative | nonnegative
    · exact (itemBelow negative).symm
    · obtain ⟨i, rfl⟩ := Int.eq_ofNat_of_zero_le nonnegative
      exact (itemBeyond (by omega)).symm

theorem appendListed {ls : List Value} (listed : ∀ v ∈ ls, v.Listed) :
    append ls = .ok (.list (ls.map Value.items).flatten) := by
  have rows : ls.mapM Value.asListOrNil = .ok (ls.map Value.items) := by
    induction ls with
    | nil => rfl
    | cons v ls ih =>
      rw [List.forall_mem_cons] at listed
      rw [List.mapM_cons, listed.1.given, ih listed.2]
      rfl
  rw [append, rows]
  rfl

theorem consListed (v : Value) {w : Value} (listed : w.Listed) :
    cons [v, w] = .ok (.list (v :: w.items)) := by
  rw [cons, listed.given]
  rfl

theorem lessNumbers (x y : Number) :
    compared Number.lt [.number x, .number y] = .ok (.bool (x.lt y)) := by
  simp [compared, Value.asNumber, chain]
  rfl

end Library

section

variable (host : Host) (n : Nat) {m : Machine}

theorem settlesNth (knows : m.Knows "nth") {x : Number} {i : Int} (whole : x.toInt? = some i)
    {form : Value} {items : List Value}
    (given : (atDepth host (n + 1)).Settles m.entered form (.ok (.list items))) :
    (atDepth host (n + 2)).Settles m (.calling "nth" [.number x, form]) (itemAt items i) := by
  have place : (atDepth host (n + 1)).Settles m.entered (.number x) (.ok (.number x)) := rfl
  have settled := settlesCall host n knows ⟨rfl, fun _ _ _ => rfl⟩ rfl (.cons place (.cons given .nil))
  rwa [Library.nthItem whole] at settled

theorem settlesTails (knows : m.Knows "tail") {xs : List Value} {i : Nat} (within : i ≤ xs.length) :
    (atDepth host (n + i + 1)).Settles m ((Value.quote (.list xs)).tails i) (.ok (.list (xs.drop i))) := by
  -- Each operand is evaluated in the scope of its call, one further in.
  induction i generalizing m with
  | zero => exact settlesQuote host n m (.list xs)
  | succ i ih =>
    have given := ih knows.entered (Nat.le_of_succ_le within)
    rw [List.drop_eq_getElem_cons within] at given
    exact settlesCall host (n + i) knows ⟨rfl, fun _ _ _ => rfl⟩ rfl (.cons given .nil)

theorem failsTails (knows : m.Knows "tail") {xs : List Value} {i : Nat} (beyond : xs.length < i) :
    (atDepth host (n + i + 1)).Settles m ((Value.quote (.list xs)).tails i)
      (.error (.lisp .emptyList)) := by
  induction i generalizing m with
  | zero => cases beyond
  | succ i ih =>
    obtain last | before := Nat.eq_or_lt_of_le (Nat.le_of_lt_succ beyond)
    · have given := settlesTails host n knows.entered (Nat.le_of_eq last.symm)
      rw [List.drop_eq_nil_of_le (Nat.le_of_eq last)] at given
      exact settlesCall host (n + i) knows ⟨rfl, fun _ _ _ => rfl⟩ rfl (.cons given .nil)
    · exact settlesFailed host (n + i) knows ⟨rfl, fun _ _ _ => rfl⟩ [] (ih knows.entered before)

theorem settlesWalk (heads : m.Knows "head") (tails : m.Knows "tail") (xs : List Value) (i : Nat) :
    (atDepth host (n + i + 2)).Settles m (.calling "head" [(Value.quote (.list xs)).tails i])
      (itemAt xs i) := by
  rcases Nat.lt_trichotomy i xs.length with inside | last | beyond
  · have given := settlesTails host n tails.entered (Nat.le_of_lt inside)
    rw [List.drop_eq_getElem_cons inside] at given
    rw [itemFound (List.getElem?_eq_getElem inside)]
    exact settlesCall host (n + i) heads ⟨rfl, fun _ _ _ => rfl⟩ rfl (.cons given .nil)
  · have given := settlesTails host n tails.entered (Nat.le_of_eq last)
    rw [List.drop_eq_nil_of_le (Nat.le_of_eq last.symm)] at given
    rw [itemBeyond (Nat.le_of_eq last.symm)]
    exact settlesCall host (n + i) heads ⟨rfl, fun _ _ _ => rfl⟩ rfl (.cons given .nil)
  · rw [itemBeyond (Nat.le_of_lt beyond)]
    exact settlesFailed host (n + i) heads ⟨rfl, fun _ _ _ => rfl⟩ []
      (failsTails host n tails.entered beyond)

theorem settlesBelowLength (less : m.Knows "<") (length : m.Knows "len") {xs : List Value}
    (small : xs.length < 1 <<< 53) {x : Number} {i : Int} (whole : x.toInt? = some i) :
    (atDepth host (n + 3)).Settles m
      (.calling "<" [.number x, .calling "len" [.quote (.list xs)]])
      (.ok (.bool (decide (i < xs.length)))) := by
  have place : (atDepth host (n + 2)).Settles m.entered (.number x) (.ok (.number x)) := rfl
  have count := settlesCall host n length.entered ⟨rfl, fun _ _ _ => rfl⟩ rfl
    (.cons (settlesQuote host n _ (.list xs)) .nil)
  have settled := settlesCall host (n + 1) less ⟨rfl, fun _ _ _ => rfl⟩ rfl (.cons place (.cons count .nil))
  have order : x.lt (.ofNat xs.length) = decide (i < xs.length) := by
    have above := Int.natCast_pos.2 Number.unityPositive
    rw [Bool.eq_iff_iff, decide_eq_true_eq,
      Number.ltSteps (Number.toIntIff.1 whole) (Number.ofNatExact small), Int.mul_lt_mul_right above]
  rwa [Library.lessNumbers, order] at settled

theorem settlesAppend (knows : m.Knows "append") {ls : List Value} (some : ls ≠ [])
    (listed : ∀ v ∈ ls, v.Listed) :
    (atDepth host (n + 2)).Settles m (.calling "append" (ls.map .quote))
      (.ok (.list (ls.map Value.items).flatten)) := by
  have accepted : (Arity.atLeast 1).accepts ls.length = true :=
    decide_eq_true (List.length_pos_iff.2 some)
  have settled := settlesCall host n knows ⟨rfl, fun _ _ _ => rfl⟩ accepted (settlesQuotes host n _ ls)
  rwa [Library.appendListed listed] at settled

theorem settlesReverse (knows : m.Knows "reverse") (xs : List Value) :
    (atDepth host (n + 2)).Settles m (.calling "reverse" [.quote (.list xs)]) (.ok (.list xs.reverse)) :=
  settlesCall host n knows ⟨rfl, fun _ _ _ => rfl⟩ rfl (settlesQuotes host n _ [.list xs])

theorem settlesCons (knows : m.Knows "cons") (v : Value) {w : Value} (listed : w.Listed) :
    (atDepth host (n + 2)).Settles m (.calling "cons" [.quote v, .quote w])
      (.ok (.list (v :: w.items))) := by
  have settled := settlesCall host n knows ⟨rfl, fun _ _ _ => rfl⟩ rfl (settlesQuotes host n _ [v, w])
  rwa [Library.consListed v listed] at settled

end

def accessors : List String := ["<", "len", "nth", "head", "tail", "append", "reverse", "cons"]

/-- How the accessors agree on what stands where. -/
structure Positions (host : Host) (n : Nat) (m : Machine) : Prop where
  walked : ∀ (xs : List Value) (x : Number) (i : Nat), x.toInt? = some (i : Int) → ∃ result,
    (atDepth host (n + 2)).Settles m (.calling "nth" [.number x, .quote (.list xs)]) result ∧
    (atDepth host (n + i + 2)).Settles m (.calling "head" [(Value.quote (.list xs)).tails i]) result ∧
    (i < xs.length → ∃ v, xs[i]? = some v ∧ result = .ok v) ∧
    (xs.length ≤ i → result = .error (.lisp .emptyList))
  /-- Positions are below the length, also where the program itself compares them. The length of a
  longer list is rounded. -/
  counted : ∀ (xs : List Value) (x : Number) (i : Int), xs.length < 1 <<< 53 → x.toInt? = some i →
    (atDepth host (n + 3)).Settles m (.calling "<" [.number x, .calling "len" [.quote (.list xs)]])
      (.ok (.bool (decide (i < xs.length))))
  negative : ∀ (xs : List Value) (x : Number) (i : Int), x.toInt? = some i → i < 0 →
    (atDepth host (n + 2)).Settles m (.calling "nth" [.number x, .quote (.list xs)])
      (.error (.lisp .emptyList))
  appended : ∀ (ls : List Value) (x : Number) (i : Nat), (∀ v ∈ ls, v.Listed) →
    x.toInt? = some (i : Int) → i < (ls.map Value.items).flatten.length →
    ∃ before v after j item,
      ls = before ++ v :: after ∧ i = (before.map Value.items).flatten.length + j ∧
      v.items[j]? = some item ∧
      (atDepth host (n + 3)).Settles m
        (.calling "nth" [.number x, .calling "append" (ls.map .quote)]) (.ok item)
  reversed : ∀ (xs : List Value) (x y : Number) (i j : Nat), x.toInt? = some (i : Int) →
    y.toInt? = some (j : Int) → i + j + 1 = xs.length → ∃ item,
      (atDepth host (n + 3)).Settles m
        (.calling "nth" [.number x, .calling "reverse" [.quote (.list xs)]]) (.ok item) ∧
      (atDepth host (n + 2)).Settles m (.calling "nth" [.number y, .quote (.list xs)]) (.ok item)
  first : ∀ (v w : Value) (x : Number), w.Listed → x.toInt? = some 0 →
    (atDepth host (n + 3)).Settles m
      (.calling "nth" [.number x, .calling "cons" [.quote v, .quote w]]) (.ok v)
  shifted : ∀ (v w : Value) (x y : Number) (i : Nat), w.Listed →
    x.toInt? = some ((i + 1 : Nat) : Int) → y.toInt? = some (i : Int) → ∃ result,
      (atDepth host (n + 3)).Settles m
        (.calling "nth" [.number x, .calling "cons" [.quote v, .quote w]]) result ∧
      (atDepth host (n + 2)).Settles m (.calling "nth" [.number y, .quote (.list w.items)]) result

theorem accessorsAgree (host : Host) (n : Nat) {m : Machine}
    (knows : ∀ name ∈ accessors, m.Knows name) : Positions host n m := by
  simp only [accessors, List.forall_mem_cons] at knows
  obtain ⟨less, length, nth, head, tail, append, reverse, cons, -⟩ := knows
  have direct {x : Number} {i : Int} (whole : x.toInt? = some i) (xs : List Value) :
      (atDepth host (n + 2)).Settles m (.calling "nth" [.number x, .quote (.list xs)]) (itemAt xs i) :=
    settlesNth host n nth whole (settlesQuote host n _ _)
  constructor
  case walked =>
    intro xs x i whole
    refine ⟨itemAt xs i, direct whole xs, settlesWalk host n head tail xs i, fun inside => ?_, itemBeyond⟩
    have found := List.getElem?_eq_getElem inside
    exact ⟨xs[i], found, itemFound found⟩
  case counted =>
    intro xs x i small whole
    exact settlesBelowLength host n less length small whole
  case negative =>
    intro xs x i whole below
    rw [← itemBelow below]
    exact direct whole xs
  case appended =>
    intro ls x i listed whole below
    obtain ⟨before, v, after, j, item, parts, place, found, there⟩ := itemAppended below
    have some : ls ≠ [] := by
      rw [parts]
      exact List.append_ne_nil_of_right_ne_nil before (List.cons_ne_nil v after)
    refine ⟨before, v, after, j, item, parts, place, found, ?_⟩
    rw [← itemFound there]
    exact settlesNth host (n + 1) nth whole (settlesAppend host n append.entered some listed)
  case reversed =>
    intro xs x y i j front back opposite
    have found := List.getElem?_eq_getElem (l := xs) (i := j) (by omega)
    have mirrored : xs.reverse[i]? = some xs[j] := (List.getElem?_reverse' opposite).trans found
    refine ⟨xs[j], ?_, ?_⟩
    · rw [← itemFound mirrored]
      exact settlesNth host (n + 1) nth front (settlesReverse host n reverse.entered xs)
    · rw [← itemFound found]
      exact direct back xs
  case first =>
    intro v w x listed whole
    exact settlesNth host (n + 1) nth whole (settlesCons host n cons.entered v listed)
  case shifted =>
    intro v w x y i listed after whole
    exact ⟨_, settlesNth host (n + 1) nth after (settlesCons host n cons.entered v listed),
      direct whole w.items⟩

theorem accessorsAgreeAtEnd :
    let m := Machine.reading "" .newline
    let xs : Value := .list [.text "a"]
    (∀ name ∈ accessors, m.Knows name) ∧ Number.one.toInt? = some 1 ∧
      (atDepth (.bare 400 400) 2).Settles m (.calling "nth" [.number .one, .quote xs])
        (.error (.lisp .emptyList)) ∧
      (atDepth (.bare 400 400) 3).Settles m (.calling "head" [.calling "tail" [.quote xs]])
        (.error (.lisp .emptyList)) ∧
      (atDepth (.bare 400 400) 3).Settles m
        (.calling "nth" [.number .zero, .calling "cons" [.quote xs, .quote .nil]]) (.ok xs) := by
  intro m xs
  have knows : ∀ name ∈ accessors, m.Knows name := by
    simp only [accessors, List.forall_mem_cons]
    exact ⟨rfl, rfl, rfl, rfl, rfl, rfl, rfl, rfl, fun _ none => nomatch none⟩
  have one : Number.one.toInt? = some 1 := Number.toIntIff.2 (Number.ofNatExact (by decide))
  have positions := accessorsAgree (.bare 400 400) 0 knows
  obtain ⟨result, direct, walked, -, beyond⟩ := positions.walked [.text "a"] .one 1 one
  cases beyond (Nat.le_refl 1)
  exact ⟨knows, one, direct, walked, positions.first xs .nil .zero (.inl rfl) rfl⟩

end DynLisp
