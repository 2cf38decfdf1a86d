import DynLisp.Proofs.Rounding
import DynLisp.Proofs.ViablePrefix

/-! Why a source is not read. Escapes and decimal numerals always convert. A hexadecimal
literal may be ill-formed, which the reader reports; or it may name a whole number that is
rounded beyond the finite ones, which the host reports, and with no error of the language. -/

namespace DynLisp

def Token.hexValue (text : String) : Nat :=
  (text.toList.drop 1).foldl (fun n c => 16 * n + (hexValue? c).getD 0) 0

structure Token.TooLarge (t : Token) : Prop where
  kind : t.kind = .hex
  digits : IsHexText t.text
  beyond : Number.integerLimit ≤ hexValue t.text

def Fault.IsReading : Fault → Prop
  | .lisp e => e.isReading = true
  | .host _ => False

theorem hexText {text : String} (h : Token.IsHexText text) : Token.hexNumber text =
    if Token.hexValue text < Number.integerLimit then .ok (.ofNat (Token.hexValue text))
    else .error (.host .integerTooLarge) := by
  obtain ⟨some, digits⟩ := h
  have every : (text.toList.drop 1).all (fun c => (Token.hexValue? c).isSome) = true :=
    List.all_eq_true.2 fun c member => (hexValueDigit c).2 (digits c member)
  have good : ((text.toList.drop 1).isEmpty ||
      !(text.toList.drop 1).all fun c => (Token.hexValue? c).isSome) = false := by
    rw [List.isEmpty_eq_false_iff.2 some, every]
    rfl
  simp only [← Number.ofNatFinite, Token.hexNumber, good]
  unfold Token.hexValue
  generalize Number.ofNat _ = x
  cases x.isFinite <;> rfl

theorem hexTooLarge {text : String} : Token.hexNumber text = .error (.host .integerTooLarge) ↔
    Token.IsHexText text ∧ Number.integerLimit ≤ Token.hexValue text := by
  by_cases digits : Token.IsHexText text
  · rw [hexText digits]
    split
    · rename_i below
      exact iff_of_false (by simp) fun h => Nat.not_le_of_lt below h.2
    · rename_i beyond
      exact iff_of_true rfl ⟨digits, Nat.le_of_not_lt beyond⟩
  · rw [hexNotText digits]
    exact iff_of_false (by simp) fun h => digits h.1

theorem Token.TooLarge.atom {t : Token} (h : t.TooLarge) :
    t.atom = .error (.host .integerTooLarge) := by
  have converted := hexTooLarge.2 ⟨h.digits, h.beyond⟩
  simp only [Token.atom, h.kind, converted]
  rfl

theorem hexRefusal {t : Token} {fault : Fault} (hex : t.kind = .hex)
    (converted : Token.hexNumber t.text = .error fault) :
    fault = .lisp (.invalidHex t.text) ∨ t.TooLarge ∧ fault = .host .integerTooLarge := by
  rcases Form.hexFault converted with rfl | rfl
  · exact .inl rfl
  · obtain ⟨digits, beyond⟩ := hexTooLarge.1 converted
    exact .inr ⟨⟨hex, digits, beyond⟩, rfl⟩

namespace Form

theorem LongestViable.unique {ts : List Token} {n m : Nat} (left : LongestViable ts n)
    (right : LongestViable ts m) : n = m :=
  Nat.le_antisymm (right.longest n left.within left.viable)
    (left.longest m right.within right.viable)

theorem endFaultReading (opened : List Open) : (endFault opened).IsReading := by
  unfold endFault
  split <;> rfl

theorem feedTooLarge {t : Token} (large : t.TooLarge) (opened : List Open) :
    feed opened t = .error (.host .integerTooLarge) := by
  simp only [feed, large.kind, large.atom]
  rfl

theorem refusalKnown {opened : List Open} {t : Token} {fault : Fault} (lexical : t.Lexical)
    (fed : feed opened t = .error fault) :
    fault.IsReading ∨ t.TooLarge ∧ fault = .host .integerTooLarge := by
  rcases feedRefusal lexical fed with ⟨_, rfl⟩ | ⟨hex, converted⟩
  · exact .inl rfl
  · rcases hexRefusal hex converted with rfl | large
    · exact .inl rfl
    · exact .inr large

theorem readAllFault {ts : List Token} (lexical : ∀ t ∈ ts, t.Lexical) {fault : Fault}
    (failed : (readAll ts).1 = .error fault) : fault.IsReading ∨
      fault = .host .integerTooLarge ∧ ∃ n t, LongestViable ts n ∧ ts[n]? = some t ∧ t.TooLarge := by
  have outcome := readAllEnds lexical
  generalize readAll ts = result at outcome failed
  cases outcome with
  | forms => cases failed
  | @ended _ _ opened =>
    cases failed
    exact .inl (endFaultReading opened)
  | @refused done vs opened us t rest cause split spelled begun fed =>
    cases failed
    rw [← List.append_assoc] at split
    subst split
    rcases refusalKnown (lexical t (by simp)) fed with reading | ⟨large, same⟩
    · exact .inl reading
    · exact .inr ⟨same, _, t, refusedLongest spelled begun fed rest, by simp, large⟩

theorem readAllRefuses {ts : List Token} (lexical : ∀ t ∈ ts, t.Lexical) {n : Nat} {t : Token}
    (longest : LongestViable ts n) (here : ts[n]? = some t) :
    ∃ opened fault, feed opened t = .error fault ∧ (readAll ts).1 = .error fault := by
  have inside : n < ts.length := (List.getElem?_eq_some_iff.1 here).1
  have outcome := readAllEnds lexical
  generalize readAll ts = result at outcome
  -- Only a refusal leaves a token after the longest prefix that can go on.
  cases outcome with
  | forms spelled =>
    have whole := longest.unique (wholeLongest spelled.viable)
    omega
  | ended split spelled begun =>
    have whole := longest.unique (wholeLongest (split ▸ begun.viable.after spelled))
    omega
  | @refused done vs opened us u rest fault split spelled begun fed =>
    rw [← List.append_assoc] at split
    subst split
    obtain rfl := longest.unique (refusedLongest spelled begun fed rest)
    obtain rfl : u = t := by simpa using here
    exact ⟨opened, fault, fed, rfl⟩

theorem readAllTooLarge {ts : List Token} (lexical : ∀ t ∈ ts, t.Lexical) :
    (readAll ts).1 = .error (.host .integerTooLarge) ↔
      ∃ n t, LongestViable ts n ∧ ts[n]? = some t ∧ t.TooLarge := by
  constructor
  · intro failed
    rcases readAllFault lexical failed with reading | ⟨_, large⟩
    · exact reading.elim
    · exact large
  · intro refused
    obtain ⟨n, t, longest, here, large⟩ := refused
    obtain ⟨opened, fault, fed, failed⟩ := readAllRefuses lexical longest here
    rw [feedTooLarge large] at fed
    cases fed
    exact failed

/-- Every token but a hexadecimal literal converts, and a source is read or fails with an error of
the reader, unless the token that no form can go on with is such a literal of too large a number. -/
theorem readerFaults (source : String) :
    (∀ t ∈ lex source, ∀ fault, t.atom = .error fault → t.kind = .hex ∧
      (fault = .lisp (.invalidHex t.text) ∨ t.TooLarge ∧ fault = .host .integerTooLarge)) ∧
    ((∃ forms, parse source = .ok forms) ∨
      ∃ fault, parse source = .error fault ∧ (fault.IsReading ∨ fault = .host .integerTooLarge)) ∧
    (parse source = .error (.host .integerTooLarge) ↔
      ∃ n t, LongestViable (lex source) n ∧ (lex source)[n]? = some t ∧ t.TooLarge) := by
  have lexical := lexLexical source
  refine ⟨fun t member fault failed => ?_, ?_, ?_⟩
  · obtain ⟨hex, converted⟩ := lexicalAtomFault (lexical t member) failed
    exact ⟨hex, hexRefusal hex converted⟩
  · cases result : parse source with
    | ok forms => exact .inl ⟨forms, rfl⟩
    | error fault =>
      refine .inr ⟨fault, rfl, ?_⟩
      rw [parseLex] at result
      split at result
      · cases result
        exact .inl rfl
      · exact (readAllFault lexical result).imp_right And.left
  · rw [parseLex]
    split
    · rename_i none
      simp [none]
    · exact readAllTooLarge lexical

theorem longLiteralRefused :
    let source := String.ofList ('#' :: List.replicate 256 'f')
    parse source = .error (.host .integerTooLarge) ∧ ¬ Fault.IsReading (.host .integerTooLarge) := by
  intro source
  have parts : ∀ c ∈ List.replicate 256 'f', Piece.isHexPart c = true := by
    intro c member
    rw [(List.mem_replicate.1 member).2]
    decide +kernel
  have tokens : lex source = [⟨.hex, source⟩] := (Lexeme.hex parts).alone
  have digits : Token.IsHexText source := by
    simp only [Token.IsHexText, source, String.toList_ofList, List.drop_succ_cons, List.drop_zero]
    refine ⟨List.cons_ne_nil _ _, fun c member => ?_⟩
    rw [(List.mem_replicate.1 member).2]
    decide
  have beyond : Number.integerLimit ≤ Token.hexValue source := by
    rw [Token.hexValue, String.toList_ofList]
    decide +kernel
  have large : Token.TooLarge ⟨.hex, source⟩ := ⟨rfl, digits, beyond⟩
  refine ⟨?_, id⟩
  rw [parseLex, tokens, if_neg (List.cons_ne_nil _ _), readAll, readAllFrom, feedTooLarge large]

end Form

end DynLisp
