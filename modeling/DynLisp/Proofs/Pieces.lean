import DynLisp.Proofs.LineBreak

/-! Where the characters of a source go: each to one token, to one comment, or away by itself. What
may be dropped is said by the texts that tokens have, and not by what the lexer does. No token but
a string holds a bracket or a single quote, save the one that it is. -/

namespace DynLisp

open Piece

/-- What a piece may be, where this text comes after it. -/
inductive Piece.Accounted : Piece → List Char → Prop where
  | token {kind text after} (lexeme : Lexeme kind text) : Accounted ⟨.token kind, text⟩ after
  | comment {cs after} (line : '\n' ∉ cs) (ends : ∀ c ∈ after.head?, c = '\n') :
      Accounted ⟨.comment, ';' :: cs⟩ after
  | blank {c after} (white : isBlank c = true) : Accounted ⟨.noise, [c]⟩ after
  | openQuote {after} (opens : ∀ body rest, after = body ++ rest → ¬ Lexeme .string ('\"' :: body)) :
      Accounted openQuote after
  | stray {c after} (noComment : c ≠ ';') (noToken : ∀ kind cs, ¬ Lexeme kind (c :: cs)) :
      Accounted ⟨.noise, [c]⟩ after

theorem takeWhileEnds (p : Char → Bool) (cs : List Char) : Stops p (cs.dropWhile p) := by
  intro c head
  simpa [Option.mem_def.1 head] using List.head?_dropWhile_not p cs

theorem lineAccounted (cs : List Char) :
    (run .comment (· != '\n') ';' cs).1.Accounted (run .comment (· != '\n') ';' cs).2 := by
  refine .comment (fun inside => ?_) fun c head => ?_
  · simpa using takeWhileAll (· != '\n') cs '\n' inside
  · simpa using takeWhileEnds (· != '\n') cs c head

theorem openAccounted {cs : List Char} (alone : splitString? cs = none) : openQuote.Accounted cs := by
  refine .openQuote fun body rest split lexeme => ?_
  cases lexeme with
  | string closed =>
    rw [split, splitStringExtends closed rest] at alone
    cases alone

/-- A character of none of the classes that tokens begin with. -/
theorem noTokenBegins {c : Char} (ordinary : isOrdinary c = true) (noDigit : isDigit c = false)
    (noSymbol : isSymbolStart c = false) (noOperator : isOperatorStart c = false)
    (noDelimiter : c ∉ delimiters.map Prod.snd) (kind : TokenKind) (cs : List Char) :
    ¬ Lexeme kind (c :: cs) := by
  intro lexeme
  cases lexeme with
  | string | hex => cases ordinary
  | number written =>
    cases written with
    | plain unsigned =>
      obtain ⟨d, rest, same, digit⟩ := unsignedHead unsigned
      rw [← (List.cons.inj same).1, noDigit] at digit
      cases digit
    | minus => cases noOperator
  | symbol start => rw [noSymbol] at start; cases start
  | operator start => rw [noOperator] at start; cases start
  | openList | closeList | openBrace | closeBrace | quote => exact noDelimiter (by decide)

/-- Whether a character begins a token or a comment is seen from it alone, but for a double quote. -/
theorem firstAccounted (c : Char) (cs : List Char) : (first c cs).1.Accounted (first c cs).2 := by
  have step {p : Prop} [Decidable p] {yes no : Piece × List Char}
      (pos : p → yes.1.Formed → yes.1.Accounted yes.2) (neg : ¬ p → no.1.Formed → no.1.Accounted no.2) :
      (if p then yes else no).1.Formed → (if p then yes else no).1.Accounted (if p then yes else no).2 := by
    split <;> simp_all
  have formed := firstFormed c cs
  revert formed
  unfold first
  refine step (fun comment _ => ?_) fun noComment => ?_
  · rw [beq_iff_eq.1 comment]
    exact lineAccounted cs
  refine step (fun quote => ?_) fun noQuote => ?_
  · split
    · exact fun formed => .token (formed _ rfl)
    · rename_i alone
      intro _
      rw [beq_iff_eq.1 quote]
      exact openAccounted alone
  refine step (fun _ formed => .token (formed _ rfl)) fun noHash => ?_
  refine step (fun _ formed => .token (formed _ rfl)) fun noNumber => ?_
  refine step (fun _ formed => .token (formed _ rfl)) fun noSymbol => ?_
  refine step (fun _ formed => .token (formed _ rfl)) fun openList => ?_
  refine step (fun _ formed => .token (formed _ rfl)) fun closeList => ?_
  refine step (fun _ formed => .token (formed _ rfl)) fun openBrace => ?_
  refine step (fun _ formed => .token (formed _ rfl)) fun closeBrace => ?_
  refine step (fun _ formed => .token (formed _ rfl)) fun noOperator => ?_
  refine step (fun _ formed => .token (formed _ rfl)) fun quote _ => ?_
  by_cases white : isBlank c = true
  · exact .blank white
  refine .stray (by simpa using noComment) (noTokenBegins ?_ ?_ ?_ ?_ ?_)
  · simp_all [isOrdinary]
  · simp_all [startsNumber]
  · simpa using noSymbol
  · simpa using noOperator
  · simp_all [delimiters]

theorem piecesAccounted (cs : List Char) : ∀ before p after, pieces cs = before ++ p :: after →
    p.Accounted (written after) := by
  fun_induction pieces cs with
  | case1 => simp
  | case2 c cs ih =>
    intro before p after split
    cases before with
    | nil =>
      obtain ⟨rfl, rfl⟩ := List.cons.inj split
      rw [piecesWritten]
      exact firstAccounted c cs
    | cons q before => exact ih before p after (List.cons.inj split).2

theorem boundaryNotNumberChar {c : Char} (h : isBoundary c = true) : isNumberChar c = false := by
  refine boundaryOutside (fun d blank => ?_) (by decide) h
  rw [isNumberChar, blankNotDigit blank, blankNotAmong (by decide) blank]
  rfl

theorem symbolStartPart {c : Char} (start : isSymbolStart c = true) : isSymbolPart c = true := by
  rcases (Bool.or_eq_true _ _).mp start with word | mark
  · rcases (Bool.or_eq_true _ _).mp word with letter | mark
    · simp [isSymbolPart, ((Bool.and_eq_true _ _).mp letter).1]
    · rw [beq_iff_eq.1 mark]
      decide
  · rw [beq_iff_eq.1 mark]
    decide

theorem operatorStartPart {c : Char} (start : isOperatorStart c = true) : isOperatorPart c = true := by
  have marks : ['+', '-', '*', '/', '^', '&', '|', '=', '<', '>', '%', '!'].all isOperatorPart = true := by
    decide
  exact List.all_eq_true.1 marks c (List.contains_iff_mem.1 start)

/-- What ends a token stands in no other token than a string. -/
theorem lexemeBoundary {kind : TokenKind} {text : List Char} (lexeme : Lexeme kind text)
    (noString : kind ≠ .string) {c : Char} (inside : c ∈ text) (boundary : isBoundary c = true) :
    (kind, c) ∈ delimiters ∧ text = [c] := by
  have outside {p : Char → Bool} (ends : ∀ d, isBoundary d = true → p d = false)
      (all : ∀ d ∈ text, p d = true) : False := by
    have here := all c inside
    rw [ends c boundary] at here
    cases here
  cases lexeme with
  | string => exact absurd rfl noString
  | hex parts =>
    have hash : isHexPart '#' = true := by decide
    exact (outside (fun d ends => by simpa [isBoundary] using ends)
      (List.forall_mem_cons.2 ⟨hash, parts⟩)).elim
  | number written => exact (outside (fun _ => boundaryNotNumberChar) (numberChars written)).elim
  | symbol start parts =>
    exact (outside (fun _ => boundaryNotSymbolPart)
      (List.forall_mem_cons.2 ⟨symbolStartPart start, parts⟩)).elim
  | operator start _ _ parts =>
    exact (outside (fun _ => boundaryNotOperatorPart)
      (List.forall_mem_cons.2 ⟨operatorStartPart start, parts⟩)).elim
  | openList | closeList | openBrace | closeBrace | quote =>
    obtain rfl := List.mem_singleton.1 inside
    exact ⟨by decide, rfl⟩

theorem delimiterLexeme {kind : TokenKind} {c : Char} (mark : (kind, c) ∈ delimiters) :
    Lexeme kind [c] ∧ isBoundary c = true := by
  have boundary : ∀ d ∈ delimiters, isBoundary d.2 = true := by decide
  refine ⟨?_, boundary _ mark⟩
  have formed := firstFormed c []
  rw [firstDelimiter mark] at formed
  exact formed kind rfl

theorem Piece.Accounted.delimiterAlone {p : Piece} {after : List Char} (accounted : p.Accounted after)
    (noComment : p.kind ≠ .comment) (noString : p.kind ≠ .token .string) {kind : TokenKind} {c : Char}
    (mark : (kind, c) ∈ delimiters) (inside : c ∈ p.text) : p = ⟨.token kind, [c]⟩ := by
  obtain ⟨lexeme, boundary⟩ := delimiterLexeme mark
  cases accounted with
  | @token other text _ whole =>
    have different : other ≠ .string := by simpa using noString
    obtain ⟨same, rfl⟩ := lexemeBoundary whole different inside boundary
    have kinds : ∀ d ∈ delimiters, ∀ e ∈ delimiters, d.2 = e.2 → d.1 = e.1 := by decide
    have alike : other = kind := kinds _ same _ mark rfl
    rw [alike]
  | comment => exact absurd rfl noComment
  | blank white =>
    obtain rfl := List.mem_singleton.1 inside
    have printed : ∀ d ∈ delimiters, isPrinted d.2 = true := by decide
    exact absurd rfl (blankNe white (printed _ mark))
  | openQuote =>
    obtain rfl := List.mem_singleton.1 inside
    have others : ∀ d ∈ delimiters, d.2 ≠ '\"' := by decide
    exact absurd rfl (others _ mark)
  | stray _ noToken =>
    obtain rfl := List.mem_singleton.1 inside
    exact absurd lexeme (noToken kind [])

/-- A source is made up of its tokens, its comments, and single characters that are dropped: white
space, a double quote that opens no complete string, or what nothing begins with. Outside of
comments and strings each bracket and each single quote is a token by itself. -/
theorem lexKeepsAll (source : String) :
    let ps := pieces source.toList
    written ps = source.toList ∧ ps.filterMap token? = lex source ∧
    (∀ before p after, ps = before ++ p :: after → p.Accounted (written after)) ∧
    ∀ p ∈ ps, p.kind ≠ .comment → p.kind ≠ .token .string →
      ∀ kind c, (kind, c) ∈ delimiters → c ∈ p.text → p = ⟨.token kind, [c]⟩ := by
  intro ps
  have accounted := piecesAccounted source.toList
  refine ⟨piecesWritten _, rfl, accounted, ?_⟩
  intro p member noComment noString kind c mark inside
  obtain ⟨before, after, split⟩ := List.append_of_mem member
  exact (accounted before p after split).delimiterAlone noComment noString mark inside

end DynLisp
