import DynLisp.Proofs.LineBreak
import DynLisp.Proofs.ReaderFaults

/-! What a further line can do for a text that was not read. A text that ends inside a form
is completed by what it leaves open, from the innermost outwards. A text that is refused at
a token stays refused, unless a string takes the token in. -/

namespace DynLisp

open Piece

theorem tokensDelimiters {ds : List (TokenKind × Char)} (known : ∀ d ∈ ds, d ∈ delimiters) :
    tokens (ds.map Prod.snd) = ds.map Token.ofDelimiter := by
  induction ds with
  | nil => exact tokensNil
  | cons d ds ih =>
    obtain ⟨here, there⟩ := List.forall_mem_cons.1 known
    rw [List.map_cons, tokensDelimiter d.1 here, ih there]
    rfl

/-- A closing delimiter that ends nothing, or a hexadecimal literal with a wrong digit or none. -/
def Fault.IsRefusal : Fault → Prop
  | .lisp (.invalidDelimiter _) | .lisp (.invalidHex _) => True
  | _ => False

namespace Form

/-- An atom, if a quote waits for one. -/
def nextAtom : List Open → List Char
  | .quote :: _ => ['a']
  | _ => []

def closingText (opened : List Open) : List Char := (closing opened).map Prod.snd

theorem closingTextMarks (opened : List Open) : ∀ c ∈ closingText opened, c = ')' ∨ c = '\x7d' := by
  refine List.forall_mem_map.2 fun d member => ?_
  exact (closingKnown opened d member).imp (congrArg Prod.snd) (congrArg Prod.snd)

theorem tokensClosing (opened : List Open) :
    tokens (closingText opened) = (closing opened).map Token.ofDelimiter := by
  refine tokensDelimiters fun d member => ?_
  rcases closingKnown opened d member with rfl | rfl <;> decide

theorem atomLexeme : Lexeme .symbol ['a'] := .symbol (by decide +kernel) nofun

theorem tokensAtomClosing (opened : List Open) : tokens ('a' :: closingText opened) =
    ⟨.symbol, "a"⟩ :: (closing opened).map Token.ofDelimiter := by
  have separate : Separate (closingText opened) := by
    intro c first
    rcases closingTextMarks opened c (List.mem_of_mem_head? first) with rfl | rfl <;> decide
  rw [← tokensClosing]
  exact tokensLexeme atomLexeme separate

theorem completionNoString (opened : List Open) :
    '\"' ∉ nextAtom opened ++ closingText opened := by
  intro member
  rcases List.mem_append.1 member with atom | mark
  · rcases opened with _ | ⟨_ | _ | _, outer⟩ <;> simp [nextAtom] at atom
  · rcases closingTextMarks opened _ mark with same | same <;> cases same

theorem Begun.completes {opened : List Open} {us : List Token} (begun : Begun opened us)
    (some : opened ≠ []) : ∃ w, Spells (us ++ tokens (nextAtom opened ++ closingText opened)) w := by
  cases begun with
  | nothing => exact absurd rfl some
  | @list outer before o ts vs outside opens items =>
    have whole := Spells.list opens items (c := .ofDelimiter (.closeList, ')')) rfl
    obtain ⟨w, closed⟩ := outside.closes whole
    exact ⟨w, by simpa [nextAtom, tokensClosing] using closed⟩
  | @brace outer before o ts vs outside opens items =>
    have whole := Spells.brace opens items (c := .ofDelimiter (.closeBrace, '\x7d')) rfl
    obtain ⟨w, closed⟩ := outside.closes whole
    exact ⟨w, by simpa [nextAtom, tokensClosing] using closed⟩
  | @quote outer before q outside mark =>
    have atom : Spells [⟨.symbol, "a"⟩] (.symbol "a") := .atom trivial rfl
    obtain ⟨w, closed⟩ := (Begun.quote outside mark).closes atom
    exact ⟨w, by simpa [nextAtom, tokensAtomClosing] using closed⟩

theorem parseEnds {source : String} (some : lex source ≠ []) :
    ∃ rest, Outcome (lex source) (parse source, rest) := by
  refine ⟨(readAll (lex source)).2, ?_⟩
  rw [parseLex, if_neg some]
  exact readAllEnds (lexLexical source)

theorem unclosedSome {source : String} (unclosed : IsUnclosed (parse source)) : lex source ≠ [] := by
  intro none
  rw [(parseNoForms source).2 none] at unclosed
  exact unclosed

theorem unclosedLeaves {source : String} (unclosed : IsUnclosed (parse source)) :
    ∃ done vs opened us, lex source = done ++ us ∧ SpellsAll done vs ∧ Begun opened us ∧
      opened ≠ [] ∧ parse source = .error (endFault opened) := by
  obtain ⟨rest, outcome⟩ := parseEnds (unclosedSome unclosed)
  generalize parse source = result at outcome unclosed
  cases outcome with
  | forms => exact unclosed.elim
  | @ended done vs opened us split spelled begun some =>
    exact ⟨done, vs, opened, us, split, spelled, begun, some, rfl⟩
  | @refused _ _ _ _ t _ _ split _ _ fed =>
    have lexical : t.Lexical := lexLexical source t (by simp [split])
    exact absurd unclosed (refusalClosed lexical fed)

/-- A text that ends inside a form is read after one more line of closing delimiters, before which an
atom stands where the text ends in a quote. -/
theorem moreInputReads {source : String} (unclosed : IsUnclosed (parse source)) :
    ∃ word marks : List Char,
      (word = [] ∨ parse source = .error (.lisp .unclosedQuote) ∧
        ∃ t, t.IsAtom ∧ lex (.ofList word) = [t]) ∧
      (∀ c ∈ marks, c = ')' ∨ c = '\x7d') ∧
      let more := String.ofList (word ++ marks)
      lex (source ++ "\n" ++ more) = lex source ++ lex more ∧
        ∃ forms, parse (source ++ "\n" ++ more) = .ok forms := by
  obtain ⟨done, vs, opened, us, split, spelled, begun, some, fault⟩ := unclosedLeaves unclosed
  refine ⟨nextAtom opened, closingText opened, ?_, closingTextMarks opened, ?_⟩
  · rcases opened with _ | ⟨_ | _ | _, outer⟩
    · exact .inl rfl
    · exact .inl rfl
    · exact .inl rfl
    · exact .inr ⟨fault, ⟨.symbol, "a"⟩, trivial, atomLexeme.alone⟩
  intro more
  have added : more.toList = nextAtom opened ++ closingText opened := String.toList_ofList
  have joined : lex (source ++ "\n" ++ more) = lex source ++ lex more := by
    refine lexBreak fun p _ _ => ?_
    rw [added]
    exact completionNoString opened
  obtain ⟨w, closed⟩ := begun.completes some
  have whole : SpellsAll (lex source ++ lex more) (vs ++ [w]) := by
    change SpellsAll (lex source ++ tokens more.toList) (vs ++ [w])
    rw [split, added, List.append_assoc]
    exact spelled.append (.single closed)
  refine ⟨joined, vs ++ [w], (parseAccepts _ _).2 ⟨?_, by rwa [joined]⟩⟩
  rw [joined]
  exact List.append_ne_nil_of_left_ne_nil (unclosedSome unclosed) _

theorem quoteInBracesReads :
    let source := "\"(\x7b '"
    IsUnclosed (parse source) ∧ ∃ more forms,
      lex (source ++ "\n" ++ more) = lex source ++ lex more ∧
        parse (source ++ "\n" ++ more) = .ok forms := by
  intro source
  have tokens : lex source = [⟨.openList, "("⟩, ⟨.openBrace, "\x7b"⟩, ⟨.quote, "'"⟩] := by
    decide +kernel
  have unclosed : IsUnclosed (parse source) := by
    rw [parseLex, tokens]
    trivial
  obtain ⟨word, marks, _, _, joined, forms, read⟩ := moreInputReads unclosed
  exact ⟨unclosed, .ofList (word ++ marks), forms, joined, read⟩

/-- The pieces of a text around the token that no form can go on with, and the fault that names it. -/
structure RefusedAt (source : String) (fault : Fault) (before : List Piece) (p : Piece)
    (after : List Piece) : Prop where
  split : pieces source.toList = before ++ p :: after
  token : ∃ t, p.token? = some t ∧
    (fault = .lisp (.invalidDelimiter t.text) ∨ fault = .lisp (.invalidHex t.text))
  longest : LongestViable (lex source) (before.filterMap token?).length

theorem lexSplit {source : String} {ts rest : List Token} {t : Token}
    (lexed : lex source = ts ++ t :: rest) :
    ∃ before p after, pieces source.toList = before ++ p :: after ∧
      before.filterMap token? = ts ∧ p.token? = some t := by
  obtain ⟨front, back, split, left, right⟩ := List.filterMap_eq_append_iff.1 lexed
  obtain ⟨noise, p, after, rfl, dropped, token, _⟩ := List.filterMap_eq_cons_iff.1 right
  refine ⟨front ++ noise, p, after, by rw [split, List.append_assoc], ?_, token⟩
  rw [List.filterMap_append, left, List.filterMap_eq_nil_iff.2 dropped, List.append_nil]

theorem refusedParts {source : String} {fault : Fault} (failed : parse source = .error fault)
    (refusal : fault.IsRefusal) : ∃ done vs opened us t rest, lex source = done ++ us ++ t :: rest ∧
      SpellsAll done vs ∧ Begun opened us ∧ feed opened t = .error fault := by
  have tokens : lex source ≠ [] := by
    intro none
    rw [(parseNoForms source).2 none] at failed
    cases failed
    exact refusal
  obtain ⟨rest, outcome⟩ := parseEnds tokens
  rw [failed] at outcome
  generalize same : Except.error fault = result at outcome
  cases outcome with
  | forms => cases same
  | @ended _ _ opened =>
    cases same
    rcases opened with _ | ⟨_ | _ | _, _⟩ <;> exact refusal.elim
  | @refused done vs opened us t rest _ split spelled begun fed =>
    cases same
    exact ⟨done, vs, opened, us, t, rest, by rw [split, List.append_assoc], spelled, begun, fed⟩

theorem refusalNames {opened : List Open} {t : Token} {fault : Fault} (lexical : t.Lexical)
    (fed : feed opened t = .error fault) (refusal : fault.IsRefusal) :
    fault = .lisp (.invalidDelimiter t.text) ∨ fault = .lisp (.invalidHex t.text) := by
  rcases feedRefusal lexical fed with ⟨_, same⟩ | ⟨_, converted⟩
  · exact .inl same
  · rcases hexFault converted with same | rfl
    · exact .inr same
    · exact refusal.elim

/-- A text that is refused at a token is refused there whatever lines follow, unless a double quote
before the token, dropped from the text as it opens no complete string there, has its end in what
follows: then the token and all after it are inside a string. -/
theorem refusalFinal {source : String} {fault : Fault} (failed : parse source = .error fault)
    (refusal : fault.IsRefusal) : ∃ before p after, RefusedAt source fault before p after ∧
      ∀ more : String, parse (source ++ "\n" ++ more) = .error fault ∨
        ∃ front back part tail, before = front ++ openQuote :: back ∧
          pieces (source ++ "\n" ++ more).toList =
            front ++ ⟨.token .string, '\"' :: (written (back ++ p :: after) ++ '\n' :: part)⟩ ::
              tail := by
  obtain ⟨done, vs, opened, us, t, rest, lexed, spelled, begun, fed⟩ := refusedParts failed refusal
  obtain ⟨before, p, after, split, taken, token⟩ := lexSplit lexed
  have lexical : t.Lexical := lexLexical source t (by simp [lexed])
  refine ⟨before, p, after, ⟨split, ⟨t, token, refusalNames lexical fed refusal⟩, ?_⟩, fun more => ?_⟩
  · rw [taken, lexed]
    exact refusedLongest spelled begun fed rest
  have text : (source ++ "\n" ++ more).toList = source.toList ++ '\n' :: more.toList := by simp
  have split' : pieces source.toList = (before ++ [p]) ++ after := by simp [split]
  rw [text]
  rcases piecesBefore split' more.toList with kept | ⟨front, back, part, tail, among, swallowed⟩
  · left
    have same : lex (source ++ "\n" ++ more) = done ++ (us ++ t ::
        tokens (written after ++ '\n' :: more.toList)) := by
      rw [lex, text, kept, List.filterMap_append, List.filterMap_append, taken]
      simp [token, tokens]
    rw [parseLex, same, if_neg (by simp), refusedAlways spelled begun fed]
  · rcases List.eq_nil_or_concat back with rfl | ⟨inner, q, rfl⟩
    · cases (List.append_inj' among rfl).2
      cases token
    · rw [List.concat_eq_append] at among swallowed
      rw [← List.cons_append, ← List.append_assoc] at among
      obtain ⟨same, last⟩ := List.append_inj' among rfl
      cases last
      rw [List.append_assoc, List.singleton_append] at swallowed
      exact .inr ⟨front, inner, part, tail, same, swallowed⟩

theorem mismatchFinal :
    let source := "(a \x7d ; \""
    let fault : Fault := .lisp (.invalidDelimiter "\x7d")
    (parse source = .error fault ∧ fault.IsRefusal) ∧
      parse (source ++ "\n" ++ "\" )") = .error fault := by
  intro source fault
  have tokens : lex source = [⟨.openList, "("⟩, ⟨.symbol, "a"⟩, ⟨.closeBrace, "\x7d"⟩] := by
    decide +kernel
  have failed : parse source = .error fault := by
    rw [parseLex, tokens]
    rfl
  have noQuote : openQuote ∉ pieces source.toList := by decide +kernel
  obtain ⟨before, p, after, refused, final⟩ := refusalFinal failed trivial
  refine ⟨⟨failed, trivial⟩, ?_⟩
  rcases final "\" )" with same | ⟨front, back, _, _, rfl, _⟩
  · exact same
  · refine absurd ?_ noQuote
    rw [refused.split]
    simp

/-- A closing delimiter that ends nothing is read as part of a string when the next line closes the
quote before it. -/
theorem delimiterTakenIntoString :
    parse "\" )" = .error (.lisp (.invalidDelimiter ")")) ∧
      parse ("\" )" ++ "\n" ++ "\"") = .ok [.text " )\n"] := by
  have first : lex "\" )" = [⟨.closeList, ")"⟩] := by decide +kernel
  have longer : lex ("\" )" ++ "\n" ++ "\"") = [⟨.string, "\" )\n\""⟩] := by decide +kernel
  have string : Token.atom ⟨.string, "\" )\n\""⟩ = .ok (.text " )\n") := rfl
  refine ⟨?_, ?_⟩
  · rw [parseLex, first]
    rfl
  · have spelled : Spells [⟨.string, "\" )\n\""⟩] (.text " )\n") := .atom trivial string
    refine (parseAccepts _ _).2 ⟨?_, ?_⟩ <;> rw [longer]
    · exact List.cons_ne_nil _ _
    · exact .single spelled

end Form

end DynLisp
