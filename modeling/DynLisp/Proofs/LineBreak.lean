import DynLisp.Proofs.Lexeme

/-! Where a line ends, every piece ends that does not hold the line break itself. A text
falls into the same pieces with or without another line after it, save that a double
quote left open may find its end there. -/

namespace DynLisp

namespace Piece

variable {p : Char → Bool} {rest : List Char}

/-- A piece of a text and what remains, when more text follows. -/
def followedBy {α : Type} (more : List Char) (r : α × List Char) : α × List Char :=
  (r.1, r.2 ++ more)

theorem takeWhileStops (stop : Stops p rest) (cs : List Char) :
    (cs ++ rest).takeWhile p = cs.takeWhile p := by
  induction cs with
  | nil =>
    cases rest with
    | nil => rfl
    | cons c rest => simp [stop c rfl]
  | cons c cs ih =>
    cases here : p c <;> simp [here, ih]

theorem dropWhileStops (stop : Stops p rest) (cs : List Char) :
    (cs ++ rest).dropWhile p = cs.dropWhile p ++ rest := by
  induction cs with
  | nil =>
    cases rest with
    | nil => rfl
    | cons c rest => simp [stop c rfl]
  | cons c cs ih =>
    cases here : p c <;> simp [here, ih]

theorem runFollowed (kind : PieceKind) (stop : Stops p rest) (c : Char) (cs : List Char) :
    run kind p c (cs ++ rest) = followedBy rest (run kind p c cs) := by
  simp [run, followedBy, takeWhileStops stop, dropWhileStops stop]

theorem headDigitFollowed (separate : Separate rest) (cs : List Char) :
    (cs ++ rest).head?.any isDigit = cs.head?.any isDigit := by
  cases cs with
  | nil =>
    cases rest with
    | nil => rfl
    | cons c rest => exact boundaryNotDigit (separate c rfl)
  | cons c cs => rfl

theorem startsNumberFollowed (separate : Separate rest) (c : Char) (cs : List Char) :
    startsNumber c (cs ++ rest) = startsNumber c cs := by
  rw [startsNumber, startsNumber, headDigitFollowed separate]

theorem splitFractionFollowed (separate : Separate rest) (cs : List Char) :
    splitFraction (cs ++ rest) = followedBy rest (splitFraction cs) := by
  have stop : Stops isDigit rest := separate.stops fun _ => boundaryNotDigit
  cases cs with
  | nil =>
    unfold splitFraction
    split
    · rename_i same
      exact absurd (congrArg List.head? same) (boundaryStops separate (by decide))
    · rfl
  | cons c cs =>
    by_cases point : c = '.'
    · subst point
      simp [splitFraction, followedBy, takeWhileStops stop, dropWhileStops stop]
    · simp [splitFraction, followedBy, point]

theorem splitExponentFollowed (separate : Separate rest) (cs : List Char) :
    splitExponent (cs ++ rest) = followedBy rest (splitExponent cs) := by
  have stop : Stops isDigit rest := separate.stops fun _ => boundaryNotDigit
  rcases cs with _ | ⟨e, _ | ⟨s, ds⟩⟩
  · exact splitExponentAppend .none separate
  · cases rest with
    | nil => rfl
    | cons s rest =>
      have outside : isBoundary s = true := separate s rfl
      have plus : s ≠ '+' := boundaryNe outside (by decide)
      have minus : s ≠ '-' := boundaryNe outside (by decide)
      simp [splitExponent, followedBy, boundaryNotDigit outside, plus, minus]
  · simp only [List.cons_append, splitExponent, headDigitFollowed separate, takeWhileStops stop,
      dropWhileStops stop]
    split
    · rfl
    · split
      · rfl
      · split <;> rfl

theorem splitNumberFollowed (separate : Separate rest) (cs : List Char) :
    splitNumber (cs ++ rest) = followedBy rest (splitNumber cs) := by
  have stop : Stops isDigit rest := separate.stops fun _ => boundaryNotDigit
  simp [splitNumber, followedBy, takeWhileStops stop, dropWhileStops stop,
    splitFractionFollowed separate, splitExponentFollowed separate]

theorem splitStringFollowed {cs body tail : List Char} (h : splitString? cs = some (body, tail))
    (more : List Char) : splitString? (cs ++ more) = some (body, tail ++ more) := by
  rw [← splitStringJoins h, List.append_assoc]
  exact splitStringExtends h (tail ++ more)

theorem splitStringNone {cs : List Char} (none : '\"' ∉ cs) : splitString? cs = .none := by
  fun_induction splitString? cs with
  | case1 | case4 => rfl
  | case2 => simp at none
  | case3 c cs ih => simp_all
  | case5 c cs _ _ _ ih => simp_all

theorem splitStringStaysOpen {cs rest : List Char} (h : splitString? cs = none)
    (none : '\"' ∉ rest) : splitString? (cs ++ '\n' :: rest) = .none := by
  have after : splitString? ('\n' :: rest) = .none := splitStringNone (by simpa using none)
  fun_induction splitString? cs with
  | case1 => exact after
  | case2 => cases h
  | case3 c cs ih =>
    simp only [Option.map_eq_none_iff] at h
    simp [splitString?, ih h]
  | case4 c cs _ alone slash =>
    -- The backslash was the last character, and takes the line break along.
    rw [beq_iff_eq] at slash
    cases cs with
    | nil => simp [slash, splitString?, splitStringNone none]
    | cons d ds => exact (alone d ds slash rfl).elim
  | case5 c cs _ _ plain ih =>
    simp only [Option.map_eq_none_iff] at h
    have slash : c ≠ '\\' := by simpa using plain
    rw [List.cons_append, splitString?.eq_def]
    simp [slash, ih h]

theorem splitStringReaches {cs rest body tail : List Char} (alone : splitString? cs = none)
    (found : splitString? (cs ++ '\n' :: rest) = some (body, tail)) :
    ∃ part, body = cs ++ '\n' :: part := by
  have within (gap : List Char) : cs ≠ body ++ gap := by
    rintro rfl
    rw [splitStringExtends found gap] at alone
    cases alone
  rcases List.append_eq_append_iff.1 (splitStringJoins found) with ⟨gap, inside, _⟩ | ⟨part, rfl, more⟩
  · exact absurd inside (within gap)
  · cases part with
    | nil => exact absurd (by simp) (within [])
    | cons c part =>
      cases more
      exact ⟨part, rfl⟩

theorem followedIf {p : Prop} [Decidable p] {yes no yes' no' : Piece × List Char}
    (pos : p → yes' = followedBy rest yes) (neg : ¬ p → no' = followedBy rest no) :
    (if p then yes' else no') = followedBy rest (if p then yes else no) := by
  split
  · exact pos (by assumption)
  · exact neg (by assumption)

def written (ps : List Piece) : List Char := ps.flatMap text

/-- A double quote that opens no complete string. -/
def openQuote : Piece := ⟨.noise, ['\"']⟩

theorem firstOpen {c : Char} {cs : List Char} (opened : (first c cs).1 = openQuote) :
    c = '\"' ∧ splitString? cs = none ∧ (first c cs).2 = cs := by
  have joined := (firstSplits c cs).1
  rw [opened] at joined
  obtain ⟨rfl, rest⟩ := List.cons.inj joined
  refine ⟨rfl, ?_, rest⟩
  rw [first, if_neg (by decide), if_pos (beq_self_eq_true _)] at opened
  cases found : splitString? cs with
  | some split => rw [found] at opened; cases opened
  | none => rfl

/-- A quote left open does not find its end in what follows. -/
def StaysOpen (c : Char) (cs more : List Char) : Prop :=
  (first c cs).1 = openQuote → splitString? (cs ++ more) = none

theorem firstBreak {c : Char} {cs rest : List Char} (closed : StaysOpen c cs ('\n' :: rest)) :
    first c (cs ++ '\n' :: rest) = followedBy ('\n' :: rest) (first c cs) := by
  have separate : Separate ('\n' :: rest) := by
    intro d h
    cases h
    decide
  have stop {p : Char → Bool} (ends : p '\n' = false) : Stops p ('\n' :: rest) := by
    intro d h
    cases h
    exact ends
  unfold StaysOpen first at closed
  unfold first
  rw [startsNumberFollowed separate]
  refine followedIf (fun _ => runFollowed _ (stop rfl) c cs) fun noComment => ?_
  rw [if_neg noComment] at closed
  refine followedIf (fun quote => ?_) fun _ => ?_
  · rw [if_pos quote] at closed
    cases found : splitString? cs with
    | some split => rw [splitStringFollowed found]; rfl
    | none =>
      rw [found] at closed
      rw [closed (by rw [beq_iff_eq.mp quote]; rfl)]
      rfl
  refine followedIf (fun _ => runFollowed _ (stop (by decide)) c cs) fun _ => ?_
  refine followedIf (fun _ => ?_) fun _ => ?_
  · simp [splitNumberFollowed separate, followedBy]
  refine followedIf (fun _ => runFollowed _ (stop (by decide)) c cs) fun _ => ?_
  refine followedIf (fun _ => rfl) fun _ => ?_
  refine followedIf (fun _ => rfl) fun _ => ?_
  refine followedIf (fun _ => rfl) fun _ => ?_
  refine followedIf (fun _ => rfl) fun _ => ?_
  refine followedIf (fun _ => runFollowed _ (stop (by decide)) c cs) fun _ => ?_
  exact followedIf (fun _ => rfl) fun _ => rfl

def Settled (rest : List Char) (p : Piece) : Prop := p = openQuote → '\"' ∉ rest

theorem Settled.staysOpen {c : Char} {cs rest : List Char} (settled : Settled rest (first c cs).1) :
    StaysOpen c cs ('\n' :: rest) :=
  fun opened => splitStringStaysOpen (firstOpen opened).2.1 (settled opened)

end Piece

open Piece

theorem piecesBreak {cs rest : List Char} (closed : ∀ p ∈ pieces cs, Settled rest p) :
    pieces (cs ++ '\n' :: rest) = pieces cs ++ ⟨.noise, ['\n']⟩ :: pieces rest := by
  fun_induction pieces cs with
  | case1 =>
    rw [List.nil_append, pieces, firstBlank (by decide)]
    rfl
  | case2 c cs ih =>
    obtain ⟨here, later⟩ := List.forall_mem_cons.mp closed
    rw [List.cons_append, pieces, firstBreak here.staysOpen, followedBy, ih later]
    rfl

theorem piecesWritten (cs : List Char) : written (pieces cs) = cs := by
  fun_induction pieces cs with
  | case1 => rfl
  | case2 c cs ih =>
    rw [written, List.flatMap_cons, ← written, ih]
    exact (firstSplits c cs).1

/-- The pieces before a place stay as they are, or a quote among them takes all that is after it into
a string. -/
theorem piecesBefore {before after : List Piece} {cs : List Char} (split : pieces cs = before ++ after)
    (rest : List Char) :
    pieces (cs ++ '\n' :: rest) = before ++ pieces (written after ++ '\n' :: rest) ∨
      ∃ front back part tail, before = front ++ openQuote :: back ∧
        pieces (cs ++ '\n' :: rest) =
          front ++ ⟨.token .string, '\"' :: (written (back ++ after) ++ '\n' :: part)⟩ :: tail := by
  induction before generalizing cs with
  | nil =>
    rw [List.nil_append] at split
    rw [← split, piecesWritten]
    exact .inl rfl
  | cons p before ih =>
    cases cs with
    | nil => simp [pieces] at split
    | cons c cs =>
      rw [pieces, List.cons_append] at split
      obtain ⟨rfl, later⟩ := List.cons.inj split
      by_cases stays : StaysOpen c cs ('\n' :: rest)
      · rw [List.cons_append, pieces, firstBreak stays, followedBy]
        rcases ih later with kept | ⟨front, back, part, tail, rfl, taken⟩
        · exact .inl (congrArg _ kept)
        · exact .inr ⟨_ :: front, back, part, tail, rfl, congrArg _ taken⟩
      · obtain ⟨opened, found⟩ := Classical.not_imp.1 stays
        obtain ⟨rfl, alone, remains⟩ := firstOpen opened
        obtain ⟨⟨body, tail⟩, closes⟩ := Option.ne_none_iff_exists'.1 found
        obtain ⟨part, rfl⟩ := splitStringReaches alone closes
        have inside : written (before ++ after) = cs := by rw [← later, remains, piecesWritten]
        refine .inr ⟨[], before, part, pieces tail, congrArg (· :: before) opened, ?_⟩
        rw [inside, List.cons_append, pieces, first, if_neg (by decide),
          if_pos (beq_self_eq_true _), closes]
        rfl

theorem lexBreak {first second : String}
    (closed : ∀ p ∈ pieces first.toList, Settled second.toList p) :
    lex (first ++ "\n" ++ second) = lex first ++ lex second := by
  have text : (first ++ "\n" ++ second).toList = first.toList ++ '\n' :: second.toList := by
    simp
  simp only [lex, text, piecesBreak closed, List.filterMap_append]
  rfl

end DynLisp
