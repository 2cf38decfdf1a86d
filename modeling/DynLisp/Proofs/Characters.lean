import DynLisp.Token.Lexer

/-! Characters that end a token. White space, brackets, quotes and the start of a
comment belong to no word, no number and no operator, so that a token written
before one of them is read back whole. -/

namespace DynLisp

theorem memberOfRuns {runs : List (Nat × Nat)} {n : Nat} (h : inRuns runs n = true) :
    ∃ r ∈ runs, r.1 ≤ n ∧ n ≤ r.2 := by
  induction runs with
  | nil => simp [inRuns] at h
  | cons r rest ih =>
    simp only [inRuns] at h
    split at h
    · contradiction
    · split at h
      · exact ⟨r, List.mem_cons_self, by omega, by omega⟩
      · obtain ⟨s, member, bounds⟩ := ih h
        exact ⟨s, List.mem_cons_of_mem r member, bounds⟩

theorem digitStart {c : Char} (h : isDigit c = true) :
    ∃ start ∈ digitZeros, start ≤ c.toNat ∧ c.toNat < start + 10 := by
  obtain ⟨d, hd⟩ := Option.isSome_iff_exists.1 h
  obtain ⟨start, found, _⟩ := Option.map_eq_some_iff.1 hd
  have inside := List.find?_some found
  exact ⟨start, List.mem_of_find?_eq_some found, by simpa using inside⟩

theorem blankRunsApart :
    ∀ r ∈ blankRuns, (∀ s ∈ alphanumericRuns, r.2 < s.1 ∨ s.2 < r.1) ∧
      (∀ start ∈ digitZeros, r.2 < start ∨ start + 10 ≤ r.1) ∧ (r.2 < 95 ∨ 95 < r.1) ∧
      (r.2 < 33 ∨ 127 < r.1) := by
  decide +kernel

theorem blankNotDigit {c : Char} (h : isBlank c = true) : isDigit c = false := by
  obtain ⟨r, member, bounds⟩ := memberOfRuns h
  rw [Bool.eq_false_iff]
  intro digit
  obtain ⟨start, inside, low, high⟩ := digitStart digit
  have := (blankRunsApart r member).2.1 start inside
  omega

theorem blankNotWord {c : Char} (h : isBlank c = true) : isWord c = false := by
  obtain ⟨r, member, bounds⟩ := memberOfRuns h
  have apart := blankRunsApart r member
  rw [Bool.eq_false_iff]
  intro word
  rcases (Bool.or_eq_true _ _).mp word with underscore | letter
  · have code : c.toNat = 95 := by rw [beq_iff_eq.1 underscore]; rfl
    have := apart.2.2.1
    omega
  · obtain ⟨s, inside, within⟩ := memberOfRuns letter
    have := apart.1 s inside
    omega

def isPrinted (c : Char) : Bool := 33 ≤ c.toNat && c.toNat ≤ 127

theorem blankNotPrinted {c : Char} (h : isBlank c = true) : isPrinted c = false := by
  obtain ⟨r, member, bounds⟩ := memberOfRuns h
  have := (blankRunsApart r member).2.2.2
  rw [Bool.eq_false_iff]
  intro printed
  obtain ⟨low, high⟩ := (Bool.and_eq_true _ _).mp printed
  have := of_decide_eq_true low
  have := of_decide_eq_true high
  omega

theorem blankNe {c d : Char} (h : isBlank c = true) (printed : isPrinted d = true) : c ≠ d := by
  rintro rfl
  rw [blankNotPrinted h] at printed
  contradiction

theorem blankNotAmong {cs : List Char} (printed : cs.all isPrinted = true) {c : Char}
    (h : isBlank c = true) : cs.contains c = false := by
  rw [Bool.eq_false_iff]
  intro among
  have member := List.contains_iff_mem.1 among
  exact blankNe h (List.all_eq_true.1 printed c member) rfl

namespace Piece

/-- Ends every token but a string: white space, a bracket, a quote, or the start of a comment. -/
def isBoundary (c : Char) : Bool := !isHexPart c

theorem boundaryCases {c : Char} (h : isBoundary c = true) :
    isBlank c = true ∨ c ∈ ['(', ')', '\x7b', '\x7d', '\'', '\"', ';'] := by
  simpa [isBoundary, isHexPart] using h

theorem boundaryOutside {p : Char → Bool} (blank : ∀ c, isBlank c = true → p c = false)
    (marks : ['(', ')', '\x7b', '\x7d', '\'', '\"', ';'].any p = false) {c : Char}
    (h : isBoundary c = true) : p c = false := by
  rcases boundaryCases h with white | mark
  · exact blank c white
  · exact Bool.eq_false_iff.2 (List.any_eq_false.1 marks c mark)

theorem boundaryNotDigit {c : Char} (h : isBoundary c = true) : isDigit c = false :=
  boundaryOutside (fun _ => blankNotDigit) (by decide) h

theorem boundaryNe {c d : Char} (h : isBoundary c = true) (inside : isHexPart d = true) :
    c ≠ d := by
  rintro rfl
  simp [isBoundary, inside] at h

theorem boundaryNotSymbolPart {c : Char} (h : isBoundary c = true) : isSymbolPart c = false := by
  refine boundaryOutside (fun d blank => ?_) (by decide) h
  rw [isSymbolPart, blankNotWord blank, blankNotAmong (by decide) blank]
  rfl

theorem boundaryNotOperatorPart {c : Char} (h : isBoundary c = true) :
    isOperatorPart c = false := by
  refine boundaryOutside (fun d blank => ?_) (by decide) h
  rw [isOperatorPart, blankNotWord blank, blankNotAmong (by decide) blank]
  rfl

def Stops (p : Char → Bool) (rest : List Char) : Prop := ∀ c ∈ rest.head?, p c = false

theorem takeWhileRun {p : Char → Bool} {cs rest : List Char} (all : ∀ c ∈ cs, p c = true)
    (stop : Stops p rest) : (cs ++ rest).takeWhile p = cs := by
  rw [List.takeWhile_append_of_pos all]
  cases rest with
  | nil => simp
  | cons c rest => simp [stop c rfl]

theorem dropWhileRun {p : Char → Bool} {cs rest : List Char} (all : ∀ c ∈ cs, p c = true)
    (stop : Stops p rest) : (cs ++ rest).dropWhile p = rest := by
  rw [List.dropWhile_append_of_pos all]
  cases rest with
  | nil => rfl
  | cons c rest => simp [stop c rfl]

def Separate (rest : List Char) : Prop := ∀ c ∈ rest.head?, isBoundary c = true

theorem Separate.stops {p : Char → Bool} {rest : List Char} (h : Separate rest)
    (outside : ∀ c, isBoundary c = true → p c = false) : Stops p rest :=
  fun c first => outside c (h c first)

end Piece

end DynLisp
