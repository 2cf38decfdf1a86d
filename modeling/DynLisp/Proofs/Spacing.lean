import DynLisp.Proofs.Grammar
import DynLisp.Proofs.LineBreak

/-! Tokens and the gaps between them. A token's text alone is enough to find it again: written after
one another with white space or lines of comment between them, the tokens of a source are those
of the new text. -/

namespace DynLisp

open Piece

/-- White space and complete lines of comment. -/
inductive Gap : List Char → Prop where
  | nil : Gap []
  | blank {c cs} (white : isBlank c = true) (rest : Gap cs) : Gap (c :: cs)
  | comment {line cs} (within : '\n' ∉ line) (rest : Gap cs) : Gap (';' :: (line ++ '\n' :: cs))

theorem Gap.separate {gap : List Char} (h : Gap gap) (some : gap ≠ []) (rest : List Char) :
    Separate (gap ++ rest) := by
  cases h with
  | nil => exact absurd rfl some
  | blank white =>
    rintro c ⟨⟩
    simp [isBoundary, isHexPart, white]
  | comment =>
    rintro c ⟨⟩
    decide

theorem tokensComment {line : List Char} (within : '\n' ∉ line) (rest : List Char) :
    tokens (';' :: (line ++ '\n' :: rest)) = tokens rest := by
  have all : ∀ c ∈ line, (c != '\n') = true := by
    intro c member
    simpa using ne_of_mem_of_not_mem member within
  have stop : Stops (· != '\n') ('\n' :: rest) := by
    rintro c ⟨⟩
    rfl
  have comment : first ';' (line ++ '\n' :: rest) = (⟨.comment, ';' :: line⟩, '\n' :: rest) := by
    rw [first, if_pos (beq_self_eq_true _), run, takeWhileRun all stop, dropWhileRun all stop]
  rw [tokens, pieces, comment]
  exact tokensBlank (by decide) rest

theorem tokensGap {gap : List Char} (h : Gap gap) (rest : List Char) :
    tokens (gap ++ rest) = tokens rest := by
  induction h with
  | nil => rfl
  | blank white _ ih => rw [List.cons_append, tokensBlank white, ih]
  | comment within _ ih =>
    rw [List.cons_append, List.append_assoc, List.cons_append, tokensComment within, ih]

/-- Tokens, each with the gap after it. -/
def spaced (pairs : List (Token × List Char)) : List Char :=
  pairs.flatMap fun (t, gap) => t.text.toList ++ gap

theorem tokensSpaced {pairs : List (Token × List Char)} (lexical : ∀ p ∈ pairs, p.1.Lexical)
    (gaps : ∀ p ∈ pairs, Gap p.2) (apart : ∀ p ∈ pairs.dropLast, p.2 ≠ []) :
    tokens (spaced pairs) = pairs.map Prod.fst := by
  induction pairs with
  | nil => exact tokensNil
  | cons p pairs ih =>
    obtain ⟨t, gap⟩ := p
    obtain ⟨here, lexical⟩ := List.forall_mem_cons.1 lexical
    obtain ⟨white, gaps⟩ := List.forall_mem_cons.1 gaps
    -- After the last token the text may end at once.
    have separate : Separate (gap ++ spaced pairs) := by
      by_cases none : gap = []
      · cases pairs with
        | nil =>
          rw [none]
          exact nofun
        | cons => exact absurd none (apart _ (.head _))
      · exact white.separate none _
    have later := ih lexical gaps fun q member => apart q (by cases pairs <;> simp_all)
    have whole : spaced ((t, gap) :: pairs) = t.text.toList ++ (gap ++ spaced pairs) := by
      simp [spaced]
    rw [whole, tokensLexeme (lexemeOfLexical here) separate, tokensGap white, later]
    simp

/-- Written anew with other gaps, a source has the tokens that it had, and reads as before. -/
theorem lexRespaced (source : String) (lead : List Char) (pairs : List (Token × List Char))
    (kept : pairs.map Prod.fst = lex source) (before : Gap lead) (gaps : ∀ p ∈ pairs, Gap p.2)
    (apart : ∀ p ∈ pairs.dropLast, p.2 ≠ []) :
    let text := String.ofList (lead ++ spaced pairs)
    lex text = lex source ∧ Form.parse text = Form.parse source := by
  intro text
  have lexical : ∀ p ∈ pairs, p.1.Lexical := by
    intro p member
    exact ⟨source, kept ▸ List.mem_map_of_mem member⟩
  have same : lex text = lex source := by
    change tokens (String.ofList (lead ++ spaced pairs)).toList = _
    rw [String.toList_ofList, tokensGap before, tokensSpaced lexical gaps apart, kept]
  exact ⟨same, by rw [Form.parseLex, Form.parseLex, same]⟩

/-- A comment between two tokens is not read, whatever it holds. -/
theorem commentBetween :
    let pairs : List (Token × List Char) := [(⟨.symbol, "a"⟩, [' ']),
      (⟨.string, "\"b\""⟩, ['\n', ';', '(', '\"', '\n']), (⟨.number, "-1"⟩, [])]
    let text := String.ofList (['\t'] ++ spaced pairs)
    pairs.map Prod.fst = lex "a\"b\"-1" ∧ (∀ p ∈ pairs, Gap p.2) ∧ (∀ p ∈ pairs.dropLast, p.2 ≠ []) ∧
      text = "\ta \"b\"\n;(\"\n-1" ∧ lex text = pairs.map Prod.fst ∧
      Form.parse text = Form.parse "a\"b\"-1" := by
  intro pairs text
  have kept : pairs.map Prod.fst = lex "a\"b\"-1" := by decide +kernel
  have before : Gap ['\t'] := .blank (by decide) .nil
  have within : '\n' ∉ ['(', '\"'] := by decide
  have comment : Gap ['\n', ';', '(', '\"', '\n'] := .blank (by decide) (.comment within .nil)
  have gaps : ∀ p ∈ pairs, Gap p.2 := by
    simp only [pairs, List.forall_mem_cons]
    exact ⟨.blank (by decide) .nil, comment, .nil, List.forall_mem_nil _⟩
  have apart : ∀ p ∈ pairs.dropLast, p.2 ≠ [] := by decide
  obtain ⟨same, reads⟩ := lexRespaced "a\"b\"-1" ['\t'] pairs kept before gaps apart
  exact ⟨kept, gaps, apart, by decide, same.trans kept.symm, reads⟩

end DynLisp
