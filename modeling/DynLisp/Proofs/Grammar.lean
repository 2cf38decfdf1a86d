import DynLisp.Form
import DynLisp.Proofs.Lexeme

/-! The grammar of forms. `Spells` says which tokens stand for which form, and knows
nothing of the reader. The reader takes exactly what the grammar derives: `Begun` is the
invariant of its open forms, `Waits` follows a derivation through it. -/

namespace DynLisp

/-- A token that stands for a form by itself. -/
def Token.IsAtom (t : Token) : Prop :=
  match t.kind with
  | .string | .number | .symbol | .operator => True
  | .hex => ∃ x, Token.hexNumber t.text = .ok x
  | _ => False

namespace Form

mutual

inductive Spells : List Token → Value → Prop where
  | atom {t v} (alone : t.IsAtom) (read : t.atom = .ok v) : Spells [t] v
  | list {o c ts vs} (opens : o.kind = .openList) (items : SpellsAll ts vs)
      (closes : c.kind = .closeList) : Spells (o :: (ts ++ [c])) (.list vs)
  | brace {o c ts vs} (opens : o.kind = .openBrace) (items : SpellsAll ts vs)
      (closes : c.kind = .closeBrace) : Spells (o :: (ts ++ [c])) (.quote (.list vs))
  | quote {q ts v} (mark : q.kind = .quote) (payload : Spells ts v) : Spells (q :: ts) (.quote v)

inductive SpellsAll : List Token → List Value → Prop where
  | nil : SpellsAll [] []
  | cons {ts us v vs} (first : Spells ts v) (rest : SpellsAll us vs) :
      SpellsAll (ts ++ us) (v :: vs)

end

theorem Spells.some {ts : List Token} {v : Value} (h : Spells ts v) : ts ≠ [] := by
  cases h <;> exact List.cons_ne_nil _ _

theorem SpellsAll.single {ts : List Token} {v : Value} (h : Spells ts v) : SpellsAll ts [v] := by
  simpa using SpellsAll.cons h .nil

theorem SpellsAll.append {ts us : List Token} {vs ws : List Value} (left : SpellsAll ts vs)
    (right : SpellsAll us ws) : SpellsAll (ts ++ us) (vs ++ ws) := by
  induction vs generalizing ts with
  | nil => cases left; exact right
  | cons v vs ih =>
    cases left with
    | cons first rest =>
      rw [List.append_assoc]
      exact .cons first (ih rest)

inductive Waits : List Open → List Token → List Open → Prop where
  | nil (opened) : Waits opened [] opened
  | cons {opened next last t ts} (fed : feed opened t = .ok (.waiting next))
      (rest : Waits next ts last) : Waits opened (t :: ts) last

theorem Waits.append {opened middle last : List Open} {ts us : List Token}
    (left : Waits opened ts middle) (right : Waits middle us last) :
    Waits opened (ts ++ us) last := by
  induction left with
  | nil => exact right
  | cons fed rest ih => exact .cons fed (ih right)

theorem feedAtom {t : Token} {v : Value} (alone : t.IsAtom) (read : t.atom = .ok v)
    (opened : List Open) : feed opened t = .ok (settle v opened) := by
  obtain ⟨kind, text⟩ := t
  cases kind <;> first | exact absurd alone id | (simp only [feed, read]; rfl)

mutual

-- For any open forms: the items of a list are fed while the list is open around them.
theorem spelledFeeds {ts : List Token} {v : Value} : Spells ts v → ∀ opened,
    ∃ before last inner, ts = before ++ [last] ∧ Waits opened before inner ∧
      feed inner last = .ok (settle v opened)
  | .atom alone read, opened => ⟨[], _, opened, rfl, .nil opened, feedAtom alone read opened⟩
  | .list (o := o) (c := c) opens items closes, opened => by
    have inside := (spelledWaits items).1 [] opened
    refine ⟨o :: _, c, _, rfl, .cons (by simp [feed, opens]) inside, ?_⟩
    simp [feed, closes]
  | .brace (o := o) (c := c) opens items closes, opened => by
    have inside := (spelledWaits items).2 [] opened
    refine ⟨o :: _, c, _, rfl, .cons (by simp [feed, opens]) inside, ?_⟩
    simp [feed, closes]
  | .quote (q := q) mark payload, opened => by
    obtain ⟨before, last, inner, rfl, waits, done⟩ := spelledFeeds payload (.quote :: opened)
    exact ⟨q :: before, last, inner, rfl, .cons (by simp [feed, mark]) waits, done⟩

theorem spelledWaits {ts : List Token} {vs : List Value} : SpellsAll ts vs →
    (∀ items opened, Waits (.list items :: opened) ts (.list (vs.reverse ++ items) :: opened)) ∧
    (∀ items opened, Waits (.brace items :: opened) ts (.brace (vs.reverse ++ items) :: opened))
  | .nil => ⟨fun _ _ => .nil _, fun _ _ => .nil _⟩
  | .cons (v := v) first rest => by
    have tail := spelledWaits rest
    constructor <;> intro items opened
    · obtain ⟨before, last, inner, rfl, waits, done⟩ := spelledFeeds first (.list items :: opened)
      have next := tail.1 (v :: items) opened
      simpa using (waits.append (.cons done (.nil _))).append next
    · obtain ⟨before, last, inner, rfl, waits, done⟩ := spelledFeeds first (.brace items :: opened)
      have next := tail.2 (v :: items) opened
      simpa using (waits.append (.cons done (.nil _))).append next

end

theorem readWaits {opened last : List Open} {ts : List Token} (h : Waits opened ts last)
    (rest : List Token) : readFrom opened (ts ++ rest) = readFrom last rest := by
  induction h with
  | nil => rfl
  | cons fed _ ih => simp [readFrom, fed, ih]

theorem readAllWaits {opened last : List Open} {ts : List Token} (h : Waits opened ts last)
    (rest : List Token) : readAllFrom opened (ts ++ rest) = readAllFrom last rest := by
  induction h with
  | nil => rfl
  | cons fed _ ih => simp [readAllFrom, fed, ih]

theorem spellsRead {ts : List Token} {v : Value} (h : Spells ts v) (rest : List Token) :
    read (ts ++ rest) = (.ok v, rest) := by
  obtain ⟨before, last, inner, rfl, waits, done⟩ := spelledFeeds h []
  rw [read, List.append_assoc, readWaits waits]
  simp [readFrom, done, settle]

theorem spellsReadAll {ts : List Token} {vs : List Value} (h : SpellsAll ts vs)
    (rest : List Token) :
    readAll (ts ++ rest) = ((vs ++ ·) <$> (readAll rest).1, (readAll rest).2) := by
  induction vs generalizing ts with
  | nil =>
    cases h
    simp
  | cons v vs ih =>
    cases h with
    | @cons us ws _ _ first more =>
      have tail := ih more
      obtain ⟨before, last, inner, rfl, waits, done⟩ := spelledFeeds first []
      rw [readAll, List.append_assoc, List.append_assoc, readAllWaits waits]
      simp only [List.cons_append, List.nil_append, readAllFrom, done, settle]
      change ((v :: ·) <$> (readAll (ws ++ rest)).1, (readAll (ws ++ rest)).2) = _
      rw [tail]
      simp

inductive Begun : List Open → List Token → Prop where
  | nothing : Begun [] []
  | list {opened before o ts vs} (outside : Begun opened before) (opens : o.kind = .openList)
      (items : SpellsAll ts vs) : Begun (.list vs.reverse :: opened) (before ++ o :: ts)
  | brace {opened before o ts vs} (outside : Begun opened before) (opens : o.kind = .openBrace)
      (items : SpellsAll ts vs) : Begun (.brace vs.reverse :: opened) (before ++ o :: ts)
  | quote {opened before q} (outside : Begun opened before) (mark : q.kind = .quote) :
      Begun (.quote :: opened) (before ++ [q])

def Progress.After (ts : List Token) : Progress → Prop
  | .complete v => Spells ts v
  | .waiting opened => Begun opened ts

theorem settleBegun {opened : List Open} {before ts : List Token} {v : Value}
    (begun : Begun opened before) (spelled : Spells ts v) :
    (settle v opened).After (before ++ ts) := by
  -- A quote is complete with its payload, and then settles into what is open around it.
  induction begun generalizing ts v with
  | nothing => exact spelled
  | @list _ before _ us vs outside opens items =>
    have more := items.append (.single spelled)
    simpa [settle, Progress.After] using Begun.list outside opens more
  | @brace _ before _ us vs outside opens items =>
    have more := items.append (.single spelled)
    simpa [settle, Progress.After] using Begun.brace outside opens more
  | quote outside mark ih => simpa [settle] using ih (.quote mark spelled)

theorem lexicalAtomReads {t : Token} (lexical : t.Lexical) (alone : t.IsAtom) :
    ∃ v, t.atom = .ok v := by
  obtain ⟨kind, text⟩ := t
  cases kind with
  | hex =>
    obtain ⟨x, converted⟩ := alone
    exact ⟨.number x, by simp only [Token.atom, converted]; rfl⟩
  | number =>
    obtain ⟨d, written⟩ := (lexemeOfLexical lexical).numberText
    have read := numberTextRead written
    rw [String.ofList_toList] at read
    exact ⟨.number d.toNumber, by simp [Token.atom, read]⟩
  | string | symbol | operator => exact ⟨_, rfl⟩
  | openList | closeList | openBrace | closeBrace | quote | other => exact absurd alone id

theorem lexicalAtomFault {t : Token} (lexical : t.Lexical) {fault : Fault}
    (read : t.atom = .error fault) : t.kind = .hex ∧ Token.hexNumber t.text = .error fault := by
  obtain ⟨kind, text⟩ := t
  cases kind with
  | hex =>
    cases converted : Token.hexNumber text with
    | ok x => simp only [Token.atom, converted] at read; cases read
    | error cause => simp only [Token.atom, converted] at read; cases read; exact ⟨rfl, rfl⟩
  | number =>
    obtain ⟨v, number⟩ := lexicalAtomReads lexical trivial
    rw [number] at read
    cases read
  | _ => cases read

theorem lexicalAlone {t : Token} (lexical : t.Lexical) {v : Value} (read : t.atom = .ok v)
    (inside : t.kind ∉ [.openList, .openBrace, .quote, .closeList, .closeBrace]) : t.IsAtom := by
  have known := (lexemeOfLexical lexical).kindKnown
  obtain ⟨kind, text⟩ := t
  cases kind with
  | hex =>
    cases converted : Token.hexNumber text with
    | ok x => exact ⟨x, converted⟩
    | error fault =>
      simp only [Token.atom, converted] at read
      cases read
  | other name => exact absurd rfl (known name)
  | number | string | symbol | operator => trivial
  | _ => simp at inside

/-- What one token does to the forms begun. -/
theorem feedBegun {opened : List Open} {before : List Token} {t : Token} {p : Progress}
    (begun : Begun opened before) (lexical : t.Lexical) (fed : feed opened t = .ok p) :
    p.After (before ++ [t]) := by
  revert fed
  fun_cases feed opened t with
  | case1 _ opens =>
    rintro ⟨⟩
    exact .list begun opens .nil
  | case2 _ opens =>
    rintro ⟨⟩
    exact .brace begun opens .nil
  | case3 _ mark =>
    rintro ⟨⟩
    exact .quote begun mark
  | case4 items rest closes =>
    rintro ⟨⟩
    cases begun with
    | @list _ before _ _ vs outside opens items =>
      simpa using settleBegun outside (.list opens items closes)
  | case5 items rest closes =>
    rintro ⟨⟩
    cases begun with
    | @brace _ before _ _ vs outside opens items =>
      simpa using settleBegun outside (.brace opens items closes)
  | case6 | case7 => exact nofun
  | case8 _ notList notBrace notQuote notListEnd notBraceEnd =>
    intro fed
    cases read : t.atom with
    | error fault =>
      rw [read] at fed
      cases fed
    | ok v =>
      rw [read] at fed
      cases fed
      have alone := lexicalAlone lexical read
        (by simpa using ⟨notList, notBrace, notQuote, notListEnd, notBraceEnd⟩)
      exact settleBegun begun (.atom alone read)

theorem readFromSound {opened : List Open} {before ts rest : List Token} {v : Value}
    (begun : Begun opened before) (lexical : ∀ t ∈ ts, t.Lexical)
    (read : readFrom opened ts = (.ok v, rest)) :
    ∃ used, ts = used ++ rest ∧ Spells (before ++ used) v := by
  induction ts generalizing opened before with
  | nil => simp [readFrom] at read
  | cons t ts ih =>
    have step := fun p => feedBegun (p := p) begun (lexical t List.mem_cons_self)
    unfold readFrom at read
    split at read
    · simp at read
    · rename_i form fed
      cases read
      exact ⟨[t], rfl, step _ fed⟩
    · rename_i next fed
      have later := fun u member => lexical u (List.mem_cons_of_mem t member)
      obtain ⟨used, rfl, spelled⟩ := ih (step _ fed) later read
      exact ⟨t :: used, rfl, by simpa using spelled⟩

inductive Outcome (ts : List Token) : Except Fault (List Value) × List Token → Prop where
  | forms {vs} (spelled : SpellsAll ts vs) : Outcome ts (.ok vs, [])
  | ended {done vs opened us} (split : ts = done ++ us) (spelled : SpellsAll done vs)
      (begun : Begun opened us) (some : opened ≠ []) : Outcome ts (.error (endFault opened), [])
  | refused {done vs opened us t rest fault} (split : ts = done ++ (us ++ t :: rest))
      (spelled : SpellsAll done vs) (begun : Begun opened us) (fed : feed opened t = .error fault) :
      Outcome ts (.error fault, rest)

theorem Outcome.prepend {ws ts : List Token} {v : Value} {result rest}
    (first : Spells ws v) (h : Outcome ts (result, rest)) :
    Outcome (ws ++ ts) ((v :: ·) <$> result, rest) := by
  cases h with
  | forms spelled => exact .forms (.cons first spelled)
  | ended split spelled begun some =>
    exact .ended (by rw [split, List.append_assoc]) (.cons first spelled) begun some
  | refused split spelled begun fed =>
    exact .refused (by rw [split, List.append_assoc]) (.cons first spelled) begun fed

theorem readAllOutcome {opened : List Open} {before ts : List Token}
    (begun : Begun opened before) (lexical : ∀ t ∈ ts, t.Lexical) :
    Outcome (before ++ ts) (readAllFrom opened ts) := by
  -- `before` holds the tokens of the form being read; those complete are prepended on the way back.
  induction ts generalizing opened before with
  | nil =>
    cases opened with
    | nil =>
      cases begun
      exact .forms .nil
    | cons o opened =>
      have whole : before ++ [] = [] ++ before := by simp
      exact .ended whole .nil begun (List.cons_ne_nil o opened)
  | cons t ts ih =>
    have step := fun p => feedBegun (p := p) begun (lexical t List.mem_cons_self)
    have later := fun u member => lexical u (List.mem_cons_of_mem t member)
    unfold readAllFrom
    split
    · rename_i fault fed
      exact .refused rfl .nil begun fed
    · rename_i form fed
      have first : Spells (before ++ [t]) form := step _ fed
      simpa using (ih .nothing later).prepend first
    · rename_i next fed
      simpa using ih (step _ fed) later

theorem hexFault {literal : String} {fault : Fault}
    (h : Token.hexNumber literal = .error fault) :
    fault = .lisp (.invalidHex literal) ∨ fault = .host .integerTooLarge := by
  unfold Token.hexNumber at h
  simp only at h
  split at h
  · cases h
    exact .inl rfl
  · split at h <;> cases h
    exact .inr rfl

theorem feedRefusal {opened : List Open} {t : Token} {fault : Fault} (lexical : t.Lexical)
    (fed : feed opened t = .error fault) :
    (t.kind = .closeList ∨ t.kind = .closeBrace) ∧ fault = .lisp (.invalidDelimiter t.text) ∨
      t.kind = .hex ∧ Token.hexNumber t.text = .error fault := by
  revert fed
  fun_cases feed opened t with
  | case6 _ kind =>
    rintro ⟨⟩
    exact .inl ⟨.inl kind, rfl⟩
  | case7 _ kind =>
    rintro ⟨⟩
    exact .inl ⟨.inr kind, rfl⟩
  | case8 _ notList notBrace notQuote notListEnd notBraceEnd =>
    intro fed
    cases read : t.atom with
    | ok v =>
      rw [read] at fed
      cases fed
    | error cause =>
      rw [read] at fed
      cases fed
      exact .inr (lexicalAtomFault lexical read)
  | _ => exact nofun

theorem Outcome.someForms {ts : List Token} {result : Except Fault (List Value) × List Token}
    (h : Outcome ts result) (lexical : ∀ t ∈ ts, t.Lexical) :
    result.1 ≠ .error (.lisp .noForms) := by
  intro same
  cases h with
  | forms => cases same
  | @ended _ _ opened =>
    rcases opened with _ | ⟨_ | _ | _, opened⟩ <;> cases same
  | @refused _ _ _ _ t _ _ split _ _ fed =>
    cases same
    have inside : t ∈ ts := by simp [split]
    rcases feedRefusal (lexical t inside) fed with ⟨_, same⟩ | ⟨_, converted⟩
    · cases same
    · rcases hexFault converted with same | same <;> cases same

theorem readAllEnds {ts : List Token} (lexical : ∀ t ∈ ts, t.Lexical) : Outcome ts (readAll ts) :=
  readAllOutcome .nothing lexical

theorem readAllSpells {ts : List Token} {vs : List Value} (h : SpellsAll ts vs) :
    readAll ts = (.ok vs, []) := by
  have whole := spellsReadAll h []
  have nothing : readAll [] = (.ok [], []) := rfl
  rw [List.append_nil, nothing] at whole
  rw [whole]
  exact congrArg (fun all => (Except.ok all, [])) (List.append_nil vs)

theorem readAllAccepts {ts : List Token} (lexical : ∀ t ∈ ts, t.Lexical) (vs : List Value) :
    (readAll ts).1 = .ok vs ↔ SpellsAll ts vs := by
  constructor
  · intro result
    have outcome := readAllEnds lexical
    generalize readAll ts = ended at outcome result
    cases outcome with
    | forms spelled =>
      cases result
      exact spelled
    | ended => cases result
    | refused => cases result
  · intro spelled
    rw [readAllSpells spelled]

theorem readAccepts {ts : List Token} (lexical : ∀ t ∈ ts, t.Lexical) (v : Value)
    (rest : List Token) : read ts = (.ok v, rest) ↔ ∃ used, ts = used ++ rest ∧ Spells used v := by
  constructor
  · exact readFromSound .nothing lexical
  · rintro ⟨used, rfl, spelled⟩
    exact spellsRead spelled rest

theorem spellsUnique {ts used other : List Token} {v w : Value} (left : used <+: ts)
    (right : other <+: ts) (spelled : Spells used v) (also : Spells other w) :
    used = other ∧ v = w := by
  obtain ⟨rest, rfl⟩ := left
  obtain ⟨more, same⟩ := right
  have first := spellsRead spelled rest
  rw [← same, spellsRead also more] at first
  cases first
  exact ⟨(List.append_cancel_right same).symm, rfl⟩

theorem parseLex (source : String) : parse source =
    if lex source = [] then .error (.lisp .noForms) else (readAll (lex source)).1 := by
  unfold parse
  split
  · rename_i none
    rw [if_pos none]
  · rename_i some
    rw [if_neg some]

theorem lexLexical (source : String) : ∀ t ∈ lex source, t.Lexical :=
  fun _ member => ⟨source, member⟩

theorem parseAccepts (source : String) (vs : List Value) :
    parse source = .ok vs ↔ lex source ≠ [] ∧ SpellsAll (lex source) vs := by
  rw [parseLex]
  split
  · rename_i none
    simp [none]
  · rename_i some
    rw [readAllAccepts (lexLexical source)]
    exact (and_iff_right some).symm

theorem parseNoForms (source : String) :
    parse source = .error (.lisp .noForms) ↔ lex source = [] := by
  rw [parseLex]
  split
  · rename_i none
    simp [none]
  · rename_i some
    have outcome := readAllEnds (lexLexical source)
    exact iff_of_false (outcome.someForms (lexLexical source)) some

/-- Reading takes the tokens of one form, or of all forms, exactly as the grammar derives them. -/
theorem readerGrammar (ts : List Token) (lexical : ∀ t ∈ ts, t.Lexical) :
    (∀ v rest, read ts = (.ok v, rest) ↔ ∃ used, ts = used ++ rest ∧ Spells used v) ∧
    (∀ used v other w, used <+: ts → other <+: ts → Spells used v → Spells other w →
      used = other ∧ v = w) ∧
    (∀ vs, (readAll ts).1 = .ok vs ↔ SpellsAll ts vs) ∧
    (∀ t ∈ ts, t.IsAtom → ∃ v, t.atom = .ok v) ∧
    (∀ source vs, parse source = .ok vs ↔ lex source ≠ [] ∧ SpellsAll (lex source) vs) ∧
    (∀ source, parse source = .error (.lisp .noForms) ↔ lex source = []) :=
  ⟨readAccepts lexical, fun _ _ _ _ => spellsUnique, readAllAccepts lexical,
    fun t member => lexicalAtomReads (lexical t member), parseAccepts, parseNoForms⟩

theorem quotedListGrammar :
    read [⟨.quote, "'"⟩, ⟨.openList, "("⟩, ⟨.symbol, "a"⟩, ⟨.closeList, ")"⟩, ⟨.closeBrace, "\x7d"⟩] =
      (.ok (.quote (.list [.symbol "a"])), [⟨.closeBrace, "\x7d"⟩]) := by
  have lexical : ∀ t ∈ [(⟨.quote, "'"⟩ : Token), ⟨.openList, "("⟩, ⟨.symbol, "a"⟩,
      ⟨.closeList, ")"⟩, ⟨.closeBrace, "\x7d"⟩], t.Lexical := by
    have letter : Lexeme .symbol ['a'] := .symbol (by decide +kernel) nofun
    simp only [List.forall_mem_cons]
    exact ⟨Lexeme.quote.lexical, Lexeme.openList.lexical, letter.lexical,
      Lexeme.closeList.lexical, Lexeme.closeBrace.lexical, nofun⟩
  have item : SpellsAll [⟨.symbol, "a"⟩] [.symbol "a"] := .single (.atom trivial rfl)
  have list : Spells [⟨.openList, "("⟩, ⟨.symbol, "a"⟩, ⟨.closeList, ")"⟩] (.list [.symbol "a"]) :=
    .list rfl item rfl
  exact ((readerGrammar _ lexical).1 _ _).2 ⟨_, rfl, .quote rfl list⟩

end Form

end DynLisp
