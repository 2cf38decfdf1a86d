import DynLisp.Text.Class
import DynLisp.Token.Basic

/-!
Source text falls into pieces: tokens, comments up to the end of their line, and single characters
that no rule takes, among them white space and a double quote that opens no complete string.
`pieces` loses nothing: the texts of the pieces, one after the other, are the source text.
-/

namespace DynLisp

inductive PieceKind where
  | token (kind : TokenKind)
  | comment
  | noise
  deriving DecidableEq, Repr

structure Piece where
  kind : PieceKind
  text : List Char
  deriving DecidableEq, Repr

namespace Piece

def isSymbolStart (c : Char) : Bool := (isWord c && !isDigit c) || c == '?' || c == '!'

def isSymbolPart (c : Char) : Bool :=
  isWord c || ['-', '?', '!', '*', '+', '/', '<', '>', '=', '.', '%', ':'].contains c

def isOperatorStart (c : Char) : Bool :=
  ['+', '-', '*', '/', '^', '&', '|', '=', '<', '>', '%', '!'].contains c

def isOperatorPart (c : Char) : Bool :=
  isWord c || ['-', '?', '!', '*', '+', '/', '<', '>', '=', '.', '%', '^', '&', '|'].contains c

/-- Everything but white space and the characters that begin a delimiter, a string or a comment. -/
def isHexPart (c : Char) : Bool :=
  !(isBlank c || ['(', ')', '\x7b', '\x7d', '\'', '\"', ';'].contains c)

/-- The rest of a string after its opening quote, closing quote included, and what follows it.
A backslash takes the character after it along. -/
def splitString? : List Char → Option (List Char × List Char)
  | [] => none
  | '\"' :: cs => some (['\"'], cs)
  | '\\' :: c :: cs => (splitString? cs).map fun (body, rest) => ('\\' :: c :: body, rest)
  | c :: cs =>
    if c == '\\' then none else (splitString? cs).map fun (body, rest) => (c :: body, rest)

def splitFraction : List Char → List Char × List Char
  | '.' :: cs => ('.' :: cs.takeWhile isDigit, cs.dropWhile isDigit)
  | cs => ([], cs)

/-- An exponent, if a complete one comes next. -/
def splitExponent : List Char → List Char × List Char
  | e :: s :: ds =>
    if !(e == 'e' || e == 'E') then ([], e :: s :: ds)
    else if isDigit s then (e :: s :: ds.takeWhile isDigit, ds.dropWhile isDigit)
    else if (s == '+' || s == '-') && ds.head?.any isDigit then
      (e :: s :: ds.takeWhile isDigit, ds.dropWhile isDigit)
    else ([], e :: s :: ds)
  | cs => ([], cs)

def splitNumber (cs : List Char) : List Char × List Char :=
  let (fraction, rest) := splitFraction (cs.dropWhile isDigit)
  let (exponent, rest) := splitExponent rest
  (cs.takeWhile isDigit ++ fraction ++ exponent, rest)

def startsNumber (c : Char) (cs : List Char) : Bool :=
  isDigit c || (c == '-' && cs.head?.any isDigit)

/-- A piece of `kind`: its first character and all that follow of a class. -/
def run (kind : PieceKind) (part : Char → Bool) (c : Char) (cs : List Char) :
    Piece × List Char :=
  (⟨kind, c :: cs.takeWhile part⟩, cs.dropWhile part)

def single (kind : PieceKind) (c : Char) (cs : List Char) : Piece × List Char := (⟨kind, [c]⟩, cs)

def first (c : Char) (cs : List Char) : Piece × List Char :=
  if c == ';' then run .comment (· != '\n') c cs
  else if c == '\"' then
    match splitString? cs with
    | some (body, rest) => (⟨.token .string, c :: body⟩, rest)
    | none => single .noise c cs
  else if c == '#' then run (.token .hex) isHexPart c cs
  else if startsNumber c cs then
    let (digits, rest) := splitNumber cs
    (⟨.token .number, c :: digits⟩, rest)
  else if isSymbolStart c then run (.token .symbol) isSymbolPart c cs
  else if c == '(' then single (.token .openList) c cs
  else if c == ')' then single (.token .closeList) c cs
  else if c == '\x7b' then single (.token .openBrace) c cs
  else if c == '\x7d' then single (.token .closeBrace) c cs
  else if isOperatorStart c then run (.token .operator) isOperatorPart c cs
  else if c == '\'' then single (.token .quote) c cs
  else single .noise c cs

theorem splitStringJoins {cs body rest} (h : splitString? cs = some (body, rest)) :
    body ++ rest = cs := by
  fun_induction splitString? cs generalizing body rest with
  | case1 => simp at h
  | case2 cs =>
    simp only [Option.some.injEq, Prod.mk.injEq] at h
    simp [← h.1, ← h.2]
  | case3 c cs ih =>
    obtain ⟨⟨b, r⟩, hb, hr⟩ := Option.map_eq_some_iff.1 h
    simp only [Prod.mk.injEq] at hr
    simp [← hr.1, ← hr.2, ih hb]
  | case4 => simp at h
  | case5 c cs _ _ _ ih =>
    obtain ⟨⟨b, r⟩, hb, hr⟩ := Option.map_eq_some_iff.1 h
    simp only [Prod.mk.injEq] at hr
    simp [← hr.1, ← hr.2, ih hb]

theorem splitFractionJoins (cs : List Char) :
    (splitFraction cs).1 ++ (splitFraction cs).2 = cs := by
  fun_cases splitFraction cs <;> simp [List.takeWhile_append_dropWhile]

theorem splitExponentJoins (cs : List Char) :
    (splitExponent cs).1 ++ (splitExponent cs).2 = cs := by
  fun_cases splitExponent cs <;> simp [List.takeWhile_append_dropWhile]

theorem splitNumberJoins (cs : List Char) : (splitNumber cs).1 ++ (splitNumber cs).2 = cs := by
  simp [splitNumber, splitExponentJoins, splitFractionJoins, List.takeWhile_append_dropWhile]

/-- A piece and a rest that make up a text; the piece is not empty. -/
def Splits (cs : List Char) (r : Piece × List Char) : Prop :=
  r.1.text ++ r.2 = cs ∧ r.1.text ≠ []

theorem runSplits (kind part c cs) : Splits (c :: cs) (run kind part c cs) := by
  simp [Splits, run, List.takeWhile_append_dropWhile]

theorem singleSplits (kind c cs) : Splits (c :: cs) (single kind c cs) := by
  simp [Splits, single]

theorem firstSplits (c : Char) (cs : List Char) : Splits (c :: cs) (first c cs) := by
  have step {p : Prop} [Decidable p] {a b : Piece × List Char}
      (ha : Splits (c :: cs) a) (hb : Splits (c :: cs) b) :
      Splits (c :: cs) (if p then a else b) := by split <;> assumption
  unfold first
  refine step (runSplits ..) (step ?_ (step (runSplits ..) (step ?_ (step (runSplits ..)
    (step (singleSplits ..) (step (singleSplits ..) (step (singleSplits ..)
      (step (singleSplits ..) (step (runSplits ..) (step (singleSplits ..)
        (singleSplits ..)))))))))))
  · split
    · rename_i h; simp [Splits, splitStringJoins h]
    · exact singleSplits ..
  · simp [Splits, splitNumberJoins]

theorem restShorter (c : Char) (cs : List Char) : (first c cs).2.length < (c :: cs).length := by
  have h := congrArg List.length (firstSplits c cs).1
  have := List.length_pos_iff.2 (firstSplits c cs).2
  simp only [List.length_append] at h
  omega

def token? (p : Piece) : Option Token :=
  match p.kind with
  | .token kind => some ⟨kind, .ofList p.text⟩
  | _ => none

end Piece

def pieces : List Char → List Piece
  | [] => []
  | c :: cs => (Piece.first c cs).1 :: pieces (Piece.first c cs).2
termination_by cs => cs.length
decreasing_by exact Piece.restShorter c cs

def lex (source : String) : List Token := (pieces source.toList).filterMap Piece.token?

end DynLisp
