import DynLisp.Proofs.Grammar

/-! Where reading stops. The tokens that the reader takes before it fails are the longest
prefix that some further tokens would make into forms; the next token is the one at
fault, and if there is none, a form was left open. -/

namespace DynLisp

def Token.IsHexText (text : String) : Prop :=
  text.toList.drop 1 ≠ [] ∧ ∀ c ∈ text.toList.drop 1,
    ('0' ≤ c ∧ c ≤ '9') ∨ ('A' ≤ c ∧ c ≤ 'F') ∨ ('a' ≤ c ∧ c ≤ 'f')

theorem hexValueDigit (c : Char) : (Token.hexValue? c).isSome = true ↔
    ('0' ≤ c ∧ c ≤ '9') ∨ ('A' ≤ c ∧ c ≤ 'F') ∨ ('a' ≤ c ∧ c ≤ 'f') := by
  unfold Token.hexValue?
  split
  · simp_all
  · split
    · simp_all
    · split <;> simp_all

theorem hexNotText {text : String} (bad : ¬ Token.IsHexText text) :
    Token.hexNumber text = .error (.lisp (.invalidHex text)) := by
  have fails : ((text.toList.drop 1).isEmpty ||
      !(text.toList.drop 1).all fun c => (Token.hexValue? c).isSome) = true := by
    rw [Bool.or_eq_true, Bool.not_eq_true', Decidable.or_iff_not_imp_left, Bool.eq_false_iff]
    intro some every
    refine bad ⟨by simpa using some, fun c member => ?_⟩
    exact (hexValueDigit c).1 (List.all_eq_true.1 every c member)
  simp only [Token.hexNumber, fails]
  rfl

def Token.ofDelimiter (d : TokenKind × Char) : Token := ⟨d.1, .ofList [d.2]⟩

namespace Form

/-- Some further tokens make these a sequence of forms. -/
def Viable (ts : List Token) : Prop :=
  ∃ more vs, (∀ t ∈ more, t.Lexical) ∧ SpellsAll (ts ++ more) vs

structure LongestViable (ts : List Token) (n : Nat) : Prop where
  within : n ≤ ts.length
  viable : Viable (ts.take n)
  longest : ∀ m ≤ ts.length, Viable (ts.take m) → m ≤ n

def IsUnclosed : Except Fault (List Value) → Prop
  | .error (.lisp .unclosedList) | .error (.lisp .unclosedQuote) => True
  | _ => False

theorem SpellsAll.viable {ts : List Token} {vs : List Value} (h : SpellsAll ts vs) : Viable ts :=
  ⟨[], vs, nofun, by rwa [List.append_nil]⟩

theorem Viable.after {done ts : List Token} {vs : List Value} (first : SpellsAll done vs)
    (h : Viable ts) : Viable (done ++ ts) := by
  obtain ⟨more, ws, lexical, spelled⟩ := h
  exact ⟨more, vs ++ ws, lexical, by simpa using first.append spelled⟩

/-- The delimiter that ends what is open; a quote ends with its payload. -/
def Open.closer? : Open → Option (TokenKind × Char)
  | .list _ => some (.closeList, ')')
  | .brace _ => some (.closeBrace, '\x7d')
  | .quote => none

def closing (opened : List Open) : List (TokenKind × Char) := opened.filterMap Open.closer?

section

variable (items : List Value) (opened : List Open)

@[simp] theorem closingNothing : closing [] = [] := rfl

@[simp] theorem closingList :
    closing (.list items :: opened) = (.closeList, ')') :: closing opened := rfl

@[simp] theorem closingBrace :
    closing (.brace items :: opened) = (.closeBrace, '\x7d') :: closing opened := rfl

@[simp] theorem closingQuote : closing (.quote :: opened) = closing opened := rfl

end

theorem closingKnown (opened : List Open) :
    ∀ d ∈ closing opened, d = (.closeList, ')') ∨ d = (.closeBrace, '\x7d') := by
  intro d member
  obtain ⟨o, _, closes⟩ := List.mem_filterMap.1 member
  cases o with
  | list => cases closes; exact .inl rfl
  | brace => cases closes; exact .inr rfl
  | quote => cases closes

theorem closingLexical (opened : List Open) :
    ∀ t ∈ (closing opened).map Token.ofDelimiter, t.Lexical := by
  refine List.forall_mem_map.2 fun d member => ?_
  rcases closingKnown opened d member with rfl | rfl
  · exact Lexeme.closeList.lexical
  · exact Lexeme.closeBrace.lexical

theorem Begun.closes {opened : List Open} {before ts : List Token} {v : Value}
    (begun : Begun opened before) (spelled : Spells ts v) :
    ∃ w, Spells (before ++ ts ++ (closing opened).map Token.ofDelimiter) w := by
  induction begun generalizing ts v with
  | nothing => exact ⟨v, by simpa using spelled⟩
  | list outside opens items ih =>
    have whole := Spells.list opens (items.append (.single spelled))
      (c := .ofDelimiter (.closeList, ')')) rfl
    obtain ⟨w, closed⟩ := ih whole
    exact ⟨w, by simpa using closed⟩
  | brace outside opens items ih =>
    have whole := Spells.brace opens (items.append (.single spelled))
      (c := .ofDelimiter (.closeBrace, '\x7d')) rfl
    obtain ⟨w, closed⟩ := ih whole
    exact ⟨w, by simpa using closed⟩
  | quote outside mark ih =>
    obtain ⟨w, closed⟩ := ih (.quote mark spelled)
    exact ⟨w, by simpa using closed⟩

theorem Begun.viable {opened : List Open} {us : List Token} (begun : Begun opened us) :
    Viable us := by
  have empty : Spells [⟨.openList, "("⟩, ⟨.closeList, ")"⟩] (.list []) := .list rfl .nil rfl
  obtain ⟨w, closed⟩ := begun.closes empty
  refine ⟨[⟨.openList, "("⟩, ⟨.closeList, ")"⟩] ++ (closing opened).map Token.ofDelimiter, [w], ?_,
    .single (by simpa using closed)⟩
  simp only [List.cons_append, List.nil_append, List.forall_mem_cons]
  exact ⟨Lexeme.openList.lexical, Lexeme.closeList.lexical, closingLexical opened⟩

theorem Begun.waits {opened : List Open} {us : List Token} (begun : Begun opened us) :
    Waits [] us opened := by
  induction begun with
  | nothing => exact .nil []
  | @list opened _ o us vs _ opens items ih =>
    have inside := (spelledWaits items).1 [] opened
    rw [List.append_nil] at inside
    exact ih.append (.cons (by simp [feed, opens]) inside)
  | @brace opened _ o us vs _ opens items ih =>
    have inside := (spelledWaits items).2 [] opened
    rw [List.append_nil] at inside
    exact ih.append (.cons (by simp [feed, opens]) inside)
  | @quote opened _ q _ mark ih =>
    exact ih.append (.cons (by simp [feed, mark]) (.nil _))

section Refusal

variable {done us : List Token} {t : Token} {vs : List Value} {opened : List Open} {fault : Fault}

theorem refusedAlways (spelled : SpellsAll done vs) (begun : Begun opened us)
    (fed : feed opened t = .error fault) (rest : List Token) :
    readAll (done ++ (us ++ t :: rest)) = (.error fault, rest) := by
  have stuck : readAll (us ++ t :: rest) = (.error fault, rest) := by
    rw [readAll, readAllWaits begun.waits]
    simp [readAllFrom, fed]
  rw [spellsReadAll spelled, stuck]
  rfl

theorem refusedNotViable (spelled : SpellsAll done vs) (begun : Begun opened us)
    (fed : feed opened t = .error fault) (rest : List Token) :
    ¬ Viable (done ++ (us ++ t :: rest)) := by
  -- Forms would be read with success, but the refusal comes first whatever follows.
  rintro ⟨more, ws, _, whole⟩
  have success := readAllSpells whole
  have failure := refusedAlways spelled begun fed (rest ++ more)
  simp only [List.append_assoc, List.cons_append] at success failure
  rw [success] at failure
  cases failure

theorem refusedLongest (spelled : SpellsAll done vs) (begun : Begun opened us)
    (fed : feed opened t = .error fault) (rest : List Token) :
    LongestViable (done ++ us ++ t :: rest) (done ++ us).length := by
  refine ⟨by simp, ?_, fun m within viable => ?_⟩
  · rw [List.take_left' rfl]
    exact begun.viable.after spelled
  · refine Nat.le_of_not_lt fun beyond => ?_
    obtain ⟨k, rfl⟩ := Nat.exists_eq_add_of_lt beyond
    rw [Nat.add_assoc, List.take_length_add_append, List.take_succ_cons, List.append_assoc]
      at viable
    exact refusedNotViable spelled begun fed (rest.take k) viable

theorem refusalClosed (lexical : t.Lexical) (fed : feed opened t = .error fault) :
    ¬ IsUnclosed (.error fault) := by
  rcases feedRefusal lexical fed with ⟨_, rfl⟩ | ⟨_, converted⟩
  · exact id
  · rcases hexFault converted with rfl | rfl <;> exact id

theorem refusalNamed (lexical : t.Lexical) (fed : feed opened t = .error fault) :
    (t.kind = .closeList ∨ t.kind = .closeBrace ∨ t.kind = .hex) ∧
    (t.kind = .closeList ∨ t.kind = .closeBrace → fault = .lisp (.invalidDelimiter t.text)) ∧
    (t.kind = .hex → ¬ Token.IsHexText t.text → fault = .lisp (.invalidHex t.text)) := by
  have apart (closer : t.kind = .closeList ∨ t.kind = .closeBrace) : t.kind ≠ .hex := by
    rcases closer with closer | closer <;> rw [closer] <;> exact nofun
  rcases feedRefusal lexical fed with ⟨closer, rfl⟩ | ⟨hex, converted⟩
  · exact ⟨closer.imp_right .inl, fun _ => rfl, fun hex => absurd hex (apart closer)⟩
  · refine ⟨.inr (.inr hex), fun closer => absurd hex (apart closer), fun _ bad => ?_⟩
    rw [hexNotText bad] at converted
    cases converted
    rfl

end Refusal

theorem wholeLongest {ts : List Token} (h : Viable ts) : LongestViable ts ts.length :=
  ⟨Nat.le_refl _, by simpa using h, fun _ within _ => within⟩

theorem endFaultUnclosed (opened : List Open) : IsUnclosed (.error (endFault opened)) := by
  rcases opened with _ | ⟨_ | _ | _, opened⟩ <;> trivial

/-- The error is that of the first token that no form can go on with. -/
theorem readerViablePrefix (ts : List Token) (lexical : ∀ t ∈ ts, t.Lexical) :
    ∃ n, LongestViable ts n ∧
      (IsUnclosed (readAll ts).1 ↔ n = ts.length ∧ ¬ ∃ vs, SpellsAll ts vs) ∧
      (∀ t, ts[n]? = some t →
        (t.kind = .closeList ∨ t.kind = .closeBrace ∨ t.kind = .hex) ∧
        (t.kind = .closeList ∨ t.kind = .closeBrace →
          readAll ts = (.error (.lisp (.invalidDelimiter t.text)), ts.drop (n + 1))) ∧
        (t.kind = .hex → ¬ Token.IsHexText t.text →
          readAll ts = (.error (.lisp (.invalidHex t.text)), ts.drop (n + 1)))) := by
  have outcome := readAllEnds lexical
  generalize same : readAll ts = result at outcome
  cases outcome with
  | @forms vs spelled =>
    refine ⟨ts.length, wholeLongest spelled.viable, ?_, by simp⟩
    exact iff_of_false id fun h => h.2 ⟨vs, spelled⟩
  | @ended done vs opened us split spelled begun some =>
    refine ⟨ts.length, wholeLongest (split ▸ begun.viable.after spelled), ?_, by simp⟩
    refine iff_of_true (endFaultUnclosed opened) ⟨rfl, ?_⟩
    rintro ⟨ws, whole⟩
    rw [readAllSpells whole] at same
    cases same
  | @refused done vs opened us t rest fault split spelled begun fed =>
    rw [← List.append_assoc] at split
    subst split
    have known : t.Lexical := lexical t (by simp)
    have after : (done ++ us ++ t :: rest).drop ((done ++ us).length + 1) = rest := by
      simp [← List.drop_drop]
    refine ⟨(done ++ us).length, refusedLongest spelled begun fed rest, ?_, fun u here => ?_⟩
    · exact iff_of_false (refusalClosed known fed) fun h => by simp at h
    · obtain rfl : t = u := by simpa using here
      obtain ⟨kinds, delimiter, numeral⟩ := refusalNamed known fed
      rw [after]
      refine ⟨kinds, fun closer => ?_, fun hex bad => ?_⟩
      · rw [delimiter closer]
      · rw [numeral hex bad]

theorem quotedLongest : LongestViable [⟨.openList, "("⟩, ⟨.quote, "'"⟩] 2 ∧
    readAll [⟨.openList, "("⟩, ⟨.quote, "'"⟩] = (.error (.lisp .unclosedQuote), []) := by
  have lexical : ∀ t ∈ [(⟨.openList, "("⟩ : Token), ⟨.quote, "'"⟩], t.Lexical := by
    simp only [List.forall_mem_cons]
    exact ⟨Lexeme.openList.lexical, Lexeme.quote.lexical, nofun⟩
  obtain ⟨n, longest, unclosed, _⟩ := readerViablePrefix _ lexical
  obtain ⟨rfl, _⟩ := unclosed.1 trivial
  exact ⟨longest, rfl⟩

end Form

end DynLisp
