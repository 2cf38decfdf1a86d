/-!
How letters and marks that were taken apart are put in order and joined again, whatever the classes
of the marks are and whatever joins with what. Characters are given by code point, and the class of
what is no mark is zero.
-/

namespace DynLisp.Label

/-! ### Order of marks -/

/-- A mark passes those after it that are of lower classes. -/
def passMarks (classOf : Nat → Nat) (code : Nat) : List Nat → List Nat
  | [] => [code]
  | c :: cs =>
    if classOf c ≠ 0 ∧ classOf c < classOf code then c :: passMarks classOf code cs
    else code :: c :: cs

def ordered (classOf : Nat → Nat) (text : List Nat) : List Nat := text.foldr (passMarks classOf) []

/-! ### Joining -/

/-- Joins a character with all that it can be joined with. A mark is out of reach behind one of the
same class or a higher one, and so is everything behind what is no mark. `passed` is the class of the
last mark that was passed. The result is the character and what is left. -/
def absorb (classOf : Nat → Nat) (join? : Nat → Nat → Option Nat) (code passed : Nat) :
    List Nat → Nat × List Nat
  | [] => (code, [])
  | c :: cs =>
    let kept (passed : Nat) : Nat × List Nat :=
      let (joined, rest) := absorb classOf join? code passed cs
      (joined, c :: rest)
    if passed ≠ 0 ∧ classOf c = 0 then (code, c :: cs)
    else if passed ≠ 0 ∧ classOf c ≤ passed then kept passed
    else match join? code c with
      | some joined => absorb classOf join? joined passed cs
      | none => if classOf c = 0 then (code, c :: cs) else kept (classOf c)

theorem absorbLength (classOf : Nat → Nat) (join? : Nat → Nat → Option Nat) (code passed : Nat)
    (text : List Nat) : (absorb classOf join? code passed text).2.length ≤ text.length := by
  induction text generalizing code passed with
  | nil => simp [absorb]
  | cons c cs ih =>
    simp only [absorb]
    split
    · exact Nat.le_refl _
    · split
      · exact Nat.succ_le_succ (ih code passed)
      · split
        · exact Nat.le_succ_of_le (ih _ passed)
        · split
          · exact Nat.le_refl _
          · exact Nat.succ_le_succ (ih code (classOf c))

/-! ### Syllables of Korean -/

/-- The letters of a syllable. The first two always make a syllable, and a third one may. -/
def letters (syllable : Nat) : List Nat :=
  let n := syllable - 0xAC00
  let last := n % 28
  [0x1100 + n / 588, 0x1161 + n % 588 / 28] ++ if last = 0 then [] else [0x11A7 + last]

/-- The syllable of the letters at the front, and how many of them it takes beside the first. -/
def syllable? (code : Nat) : List Nat → Option (Nat × Nat)
  | [] => none
  | v :: cs =>
    if 0x1100 ≤ code ∧ code < 0x1113 ∧ 0x1161 ≤ v ∧ v < 0x1176 then
      let short := 0xAC00 + ((code - 0x1100) * 21 + (v - 0x1161)) * 28
      match cs with
      | t :: _ => if 0x11A8 ≤ t ∧ t < 0x11C3 then some (short + (t - 0x11A7), 2) else some (short, 1)
      | [] => some (short, 1)
    else none

def joined (classOf : Nat → Nat) (join? : Nat → Nat → Option Nat) : List Nat → List Nat
  | [] => []
  | code :: cs =>
    match syllable? code cs with
    | some (syllable, more) => syllable :: joined classOf join? (cs.drop more)
    | none =>
      have := absorbLength classOf join? code 0 cs
      (absorb classOf join? code 0 cs).1 ::
        joined classOf join? (absorb classOf join? code 0 cs).2
termination_by text => text.length
decreasing_by
  · rw [List.length_cons, List.length_drop]
    omega
  · exact Nat.lt_succ_of_le this

end DynLisp.Label
