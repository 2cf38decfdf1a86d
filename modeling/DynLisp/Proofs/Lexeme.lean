import DynLisp.Proofs.NumberText

/-! The texts that tokens of each kind have, without reference to the lexer. The lexer
yields only such texts; and each of them, where nothing or a boundary follows, it takes
as one token, whatever else the text holds. A string ends at its own quote, and needs no
boundary after it. -/

namespace DynLisp

open Piece Decimal

inductive Lexeme : TokenKind → List Char → Prop where
  | string {body} (closed : splitString? body = some (body, [])) : Lexeme .string ('\"' :: body)
  | hex {cs} (parts : ∀ c ∈ cs, isHexPart c = true) : Lexeme .hex ('#' :: cs)
  | number {cs d} (written : NumberText cs d) : Lexeme .number cs
  | symbol {c cs} (start : isSymbolStart c = true) (parts : ∀ d ∈ cs, isSymbolPart d = true) :
      Lexeme .symbol (c :: cs)
  | operator {c cs} (start : isOperatorStart c = true) (noSymbol : isSymbolStart c = false)
      (noNumber : startsNumber c cs = false) (parts : ∀ d ∈ cs, isOperatorPart d = true) :
      Lexeme .operator (c :: cs)
  | openList : Lexeme .openList ['(']
  | closeList : Lexeme .closeList [')']
  | openBrace : Lexeme .openBrace ['\x7b']
  | closeBrace : Lexeme .closeBrace ['\x7d']
  | quote : Lexeme .quote ['\'']

theorem Lexeme.numberText {text : List Char} (h : Lexeme .number text) :
    ∃ d, NumberText text d := by
  cases h with
  | number written => exact ⟨_, written⟩

theorem Lexeme.kindKnown {kind : TokenKind} {text : List Char} (h : Lexeme kind text)
    (name : String) : kind ≠ .other name := by
  rintro rfl
  cases h

theorem takeWhileAll (p : Char → Bool) (cs : List Char) : ∀ c ∈ cs.takeWhile p, p c = true :=
  List.all_eq_true.1 List.all_takeWhile

theorem splitStringExtends {cs body rest : List Char} (h : splitString? cs = some (body, rest))
    (more : List Char) : splitString? (body ++ more) = some (body, more) := by
  fun_induction splitString? cs generalizing body rest with
  | case1 => simp at h
  | case2 cs =>
    cases h
    rfl
  | case3 c cs ih =>
    obtain ⟨⟨inner, r⟩, found, same⟩ := Option.map_eq_some_iff.1 h
    cases same
    simp [splitString?, ih found]
  | case4 => simp at h
  | case5 c cs _ _ notBackslash ih =>
    obtain ⟨⟨inner, r⟩, found, same⟩ := Option.map_eq_some_iff.1 h
    cases same
    have plain : c ≠ '\\' := by simpa using notBackslash
    rw [List.cons_append, splitString?.eq_def]
    simp [plain, ih found]

theorem fractionShape (cs : List Char) : (splitFraction cs).1 = [] ∨
    ∃ fs, (splitFraction cs).1 = '.' :: fs ∧ ∀ d ∈ fs, isDigit d = true := by
  fun_cases splitFraction cs with
  | case1 cs => exact .inr ⟨_, rfl, takeWhileAll isDigit cs⟩
  | case2 => exact .inl rfl

theorem headDigitTakes {cs : List Char} (h : cs.head?.any isDigit = true) :
    cs.takeWhile isDigit ≠ [] := by
  cases cs with
  | nil => contradiction
  | cons d cs =>
    have digit : isDigit d = true := h
    rw [List.takeWhile_cons_of_pos digit]
    exact List.cons_ne_nil d _

theorem exponentShape (cs : List Char) : ∃ e, ExponentText (splitExponent cs).1 e := by
  fun_cases splitExponent cs with
  | case1 | case5 => exact ⟨0, .none⟩
  | case2 e s ds mark digit =>
    have mark : e = 'e' ∨ e = 'E' := Decidable.or_iff_not_imp_left.2 (by simpa using mark)
    exact ⟨_, .plain mark (by simp) (List.forall_mem_cons.2 ⟨digit, takeWhileAll isDigit ds⟩)⟩
  | case3 e s ds mark _ sign =>
    have mark : e = 'e' ∨ e = 'E' := Decidable.or_iff_not_imp_left.2 (by simpa using mark)
    obtain ⟨sign, digit⟩ := (Bool.and_eq_true _ _).mp sign
    have some := headDigitTakes digit
    have sign : s = '+' ∨ s = '-' := by simpa using sign
    rcases sign with rfl | rfl
    · exact ⟨_, .plus mark some (takeWhileAll isDigit ds)⟩
    · exact ⟨_, .minus mark some (takeWhileAll isDigit ds)⟩
  | case4 => exact ⟨0, .none⟩

theorem splitNumberText (negative : Bool) (front cs : List Char)
    (digits : ∀ d ∈ front, isDigit d = true)
    (some : front ++ cs.takeWhile isDigit ≠ []) :
    ∃ d, UnsignedText negative (front ++ (splitNumber cs).1) d := by
  have whole : ∀ d ∈ front ++ cs.takeWhile isDigit, isDigit d = true :=
    List.forall_mem_append.2 ⟨digits, takeWhileAll isDigit cs⟩
  obtain ⟨e, exponent⟩ := exponentShape (splitFraction (cs.dropWhile isDigit)).2
  simp only [splitNumber, ← List.append_assoc]
  rcases fractionShape (cs.dropWhile isDigit) with none | ⟨fs, point, fraction⟩
  · rw [none, List.append_nil]
    exact ⟨_, .whole some whole exponent⟩
  · rw [point, List.append_assoc _ ('.' :: fs)]
    exact ⟨_, .point some whole fraction exponent⟩

theorem boundaryStops {rest : List Char} (h : Separate rest) {c : Char}
    (inside : isHexPart c = true) : rest.head? ≠ some c :=
  fun first => boundaryNe (h c first) inside rfl

theorem splitExponentMark {e s : Char} {ds : List Char} (mark : e = 'e' ∨ e = 'E') :
    splitExponent (e :: s :: ds) =
      if isDigit s then (e :: s :: ds.takeWhile isDigit, ds.dropWhile isDigit)
      else if (s == '+' || s == '-') && ds.head?.any isDigit then
        (e :: s :: ds.takeWhile isDigit, ds.dropWhile isDigit)
      else ([], e :: s :: ds) := by
  rcases mark with rfl | rfl <;> rfl

theorem splitExponentSign {e s : Char} {ds rest : List Char} (mark : e = 'e' ∨ e = 'E')
    (sign : s = '+' ∨ s = '-') (some : ds ≠ []) (digits : ∀ d ∈ ds, isDigit d = true)
    (stop : Stops isDigit rest) :
    splitExponent (e :: s :: (ds ++ rest)) = (e :: s :: ds, rest) := by
  have other : ¬ isDigit s = true := by
    rcases sign with rfl | rfl <;> decide
  have first : ((s == '+' || s == '-') && (ds ++ rest).head?.any isDigit) = true := by
    obtain ⟨d, ds, rfl⟩ := List.exists_cons_of_ne_nil some
    have digit : (d :: ds ++ rest).head?.any isDigit = true := digits d List.mem_cons_self
    rcases sign with rfl | rfl <;> exact digit
  rw [splitExponentMark mark, if_neg other, if_pos first, takeWhileRun digits stop,
    dropWhileRun digits stop]

theorem splitExponentAppend {cs rest : List Char} {e : Int} (h : ExponentText cs e)
    (separate : Separate rest) : splitExponent (cs ++ rest) = (cs, rest) := by
  have stop := separate.stops fun _ => boundaryNotDigit
  cases h with
  | none =>
    rw [List.nil_append]
    unfold splitExponent
    split
    · rename_i e s ds
      have small : e ≠ 'e' := fun same => boundaryStops separate (by decide) (congrArg some same)
      have great : e ≠ 'E' := fun same => boundaryStops separate (by decide) (congrArg some same)
      rw [beq_false_of_ne small, beq_false_of_ne great]
      rfl
    · rfl
  | @plain e ds mark some digits =>
    obtain ⟨d, ds, rfl⟩ := List.exists_cons_of_ne_nil some
    have digit := digits d List.mem_cons_self
    have more := fun d member => digits d (List.mem_cons_of_mem _ member)
    rw [List.cons_append, List.cons_append, splitExponentMark mark, if_pos digit,
      takeWhileRun more stop, dropWhileRun more stop]
  | plus mark some digits => exact splitExponentSign mark (.inl rfl) some digits stop
  | minus mark some digits => exact splitExponentSign mark (.inr rfl) some digits stop

theorem exponentAppendStops {cs rest : List Char} {e : Int} (h : ExponentText cs e)
    (separate : Separate rest) :
    Stops isDigit (cs ++ rest) ∧ (cs ++ rest).head? ≠ some '.' := by
  cases cs with
  | nil =>
    exact ⟨separate.stops fun _ => boundaryNotDigit, boundaryStops separate (by decide)⟩
  | cons c cs => exact ⟨(exponentStops h).1, (exponentStops h).2⟩

inductive NumberRest : List Char → Prop where
  | whole {ds exponent e} (digits : ∀ d ∈ ds, isDigit d = true)
      (rest : ExponentText exponent e) : NumberRest (ds ++ exponent)
  | point {ds fs exponent e} (digits : ∀ d ∈ ds, isDigit d = true)
      (fraction : ∀ d ∈ fs, isDigit d = true) (rest : ExponentText exponent e) :
      NumberRest (ds ++ '.' :: (fs ++ exponent))

theorem unsignedRest {negative : Bool} {cs : List Char} {d : Decimal}
    (h : UnsignedText negative cs d) : NumberRest cs ∧ NumberRest cs.tail := by
  cases h with
  | @whole ds exponent e some digits rest =>
    obtain ⟨d, ds, rfl⟩ := List.exists_cons_of_ne_nil some
    exact ⟨.whole digits rest, .whole (fun d member => digits d (.tail _ member)) rest⟩
  | @point ds fs exponent e some digits fraction rest =>
    obtain ⟨d, ds, rfl⟩ := List.exists_cons_of_ne_nil some
    exact ⟨.point digits fraction rest,
      .point (fun d member => digits d (.tail _ member)) fraction rest⟩

theorem splitNumberAppend {cs rest : List Char} (h : NumberRest cs) (separate : Separate rest) :
    splitNumber (cs ++ rest) = (cs, rest) := by
  cases h with
  | @whole ds exponent e digits written =>
    obtain ⟨stops, noPoint⟩ := exponentAppendStops written separate
    have fraction : splitFraction (exponent ++ rest) = ([], exponent ++ rest) := by
      unfold splitFraction
      split
      · rename_i same
        simp [same] at noPoint
      · rfl
    simp only [splitNumber, List.append_assoc, takeWhileRun digits stops,
      dropWhileRun digits stops, fraction, splitExponentAppend written separate, List.nil_append]
  | @point ds fs exponent e digits fraction written =>
    obtain ⟨stops, _⟩ := exponentAppendStops written separate
    have stop : Stops isDigit ('.' :: (fs ++ (exponent ++ rest))) := by
      rintro c ⟨⟩
      decide
    simp only [splitNumber, List.append_assoc, List.cons_append, takeWhileRun digits stop,
      dropWhileRun digits stop, splitFraction, takeWhileRun fraction stops,
      dropWhileRun fraction stops, splitExponentAppend written separate]

theorem apart {p : Char → Bool} (marks : List Char) (outside : marks.any p = false) {c : Char}
    (h : p c = true) : ∀ d ∈ marks, ¬ (c == d) = true := by
  intro d member same
  rw [beq_iff_eq.1 same] at h
  exact List.any_eq_false.1 outside d member h

theorem symbolStartNotDigit {c : Char} (h : isSymbolStart c = true) : isDigit c = false := by
  have marks : isDigit '?' = false ∧ isDigit '!' = false := by decide
  rcases (Bool.or_eq_true _ _).mp h with word | mark
  · rcases (Bool.or_eq_true _ _).mp word with letter | mark
    · simpa using ((Bool.and_eq_true _ _).mp letter).2
    · rw [beq_iff_eq.1 mark]
      exact marks.1
  · rw [beq_iff_eq.1 mark]
    exact marks.2

theorem symbolStartNoNumber {c : Char} (h : isSymbolStart c = true) (cs : List Char) :
    startsNumber c cs = false := by
  have minus : (c == '-') = false := by
    simpa using apart ['-'] (by decide) h '-' List.mem_cons_self
  rw [startsNumber, symbolStartNotDigit h, minus]
  rfl

def isOrdinary (c : Char) : Bool := !([';', '\"', '#'].contains c)

theorem ordinaryWhere {p : Char → Bool} (outside : [';', '\"', '#'].any p = false) {c : Char}
    (h : p c = true) : isOrdinary c = true := by
  rw [isOrdinary, Bool.not_eq_true', Bool.eq_false_iff]
  intro among
  exact List.any_eq_false.1 outside c (List.contains_iff_mem.1 among) h

theorem firstOrdinary {c : Char} (h : isOrdinary c = true) (cs : List Char) : first c cs =
    if startsNumber c cs then (⟨.token .number, c :: (splitNumber cs).1⟩, (splitNumber cs).2)
    else if isSymbolStart c then run (.token .symbol) isSymbolPart c cs
    else if c == '(' then single (.token .openList) c cs
    else if c == ')' then single (.token .closeList) c cs
    else if c == '\x7b' then single (.token .openBrace) c cs
    else if c == '\x7d' then single (.token .closeBrace) c cs
    else if isOperatorStart c then run (.token .operator) isOperatorPart c cs
    else if c == '\'' then single (.token .quote) c cs
    else single .noise c cs := by
  have other : c ≠ ';' ∧ c ≠ '\"' ∧ c ≠ '#' := by simpa [isOrdinary] using h
  obtain ⟨comment, string, hex⟩ := other
  rw [first, if_neg (mt beq_iff_eq.1 comment), if_neg (mt beq_iff_eq.1 string),
    if_neg (mt beq_iff_eq.1 hex)]

theorem firstNumber {c : Char} {cs : List Char} (h : isOrdinary c = true)
    (starts : startsNumber c cs = true) :
    first c cs = (⟨.token .number, c :: (splitNumber cs).1⟩, (splitNumber cs).2) := by
  rw [firstOrdinary h, if_pos starts]

theorem firstSymbol {c : Char} (start : isSymbolStart c = true) (cs : List Char) :
    first c cs = run (.token .symbol) isSymbolPart c cs := by
  have noNumber := Bool.eq_false_iff.1 (symbolStartNoNumber start cs)
  rw [firstOrdinary (ordinaryWhere (by decide) start), if_neg noNumber, if_pos start]

theorem firstOperator {c : Char} {cs : List Char} (start : isOperatorStart c = true)
    (noSymbol : isSymbolStart c = false) (noNumber : startsNumber c cs = false) :
    first c cs = run (.token .operator) isOperatorPart c cs := by
  have brackets := apart ['(', ')', '\x7b', '\x7d'] (by decide) start
  simp only [List.forall_mem_cons] at brackets
  obtain ⟨openList, closeList, openBrace, closeBrace, _⟩ := brackets
  rw [firstOrdinary (ordinaryWhere (by decide) start), if_neg (Bool.eq_false_iff.1 noNumber),
    if_neg (Bool.eq_false_iff.1 noSymbol), if_neg openList, if_neg closeList, if_neg openBrace,
    if_neg closeBrace, if_pos start]

def delimiters : List (TokenKind × Char) := [(.openList, '('), (.closeList, ')'),
  (.openBrace, '\x7b'), (.closeBrace, '\x7d'), (.quote, '\'')]

theorem firstDelimiter {kind : TokenKind} {c : Char} (h : (kind, c) ∈ delimiters)
    (rest : List Char) : first c rest = (⟨.token kind, [c]⟩, rest) := by
  have others : ∀ d ∈ delimiters, isDigit d.2 = false ∧ isSymbolStart d.2 = false := by
    decide
  obtain ⟨digit, symbol⟩ := others _ h
  have none : startsNumber c rest = false := by
    have minus : ∀ d ∈ delimiters, (d.2 == '-') = false := by decide
    rw [startsNumber, digit, minus _ h]
    rfl
  have ordinary : ∀ d ∈ delimiters, isOrdinary d.2 = true := by decide
  rw [firstOrdinary (ordinary _ h), if_neg (Bool.eq_false_iff.1 none),
    if_neg (Bool.eq_false_iff.1 symbol)]
  simp only [delimiters, List.mem_cons, Prod.mk.injEq, List.not_mem_nil, or_false] at h
  rcases h with ⟨rfl, rfl⟩ | ⟨rfl, rfl⟩ | ⟨rfl, rfl⟩ | ⟨rfl, rfl⟩ | ⟨rfl, rfl⟩ <;> rfl

theorem firstString {text : List Char} (h : Lexeme .string text) (rest : List Char) :
    ∃ c cs, text = c :: cs ∧ first c (cs ++ rest) = (⟨.token .string, text⟩, rest) := by
  cases h with
  | @string body closed =>
    refine ⟨'"', body, rfl, ?_⟩
    rw [first, if_neg (by decide), if_pos (beq_self_eq_true _), splitStringExtends closed rest]

theorem firstLexeme {kind : TokenKind} {text rest : List Char} (h : Lexeme kind text)
    (separate : Separate rest) :
    ∃ c cs, text = c :: cs ∧ first c (cs ++ rest) = (⟨.token kind, text⟩, rest) := by
  cases h with
  | string closed => exact firstString (.string closed) rest
  | @hex cs parts =>
    have stop : Stops isHexPart rest := separate.stops fun c h => by simpa [isBoundary] using h
    refine ⟨'#', cs, rfl, ?_⟩
    rw [first, if_neg (by decide), if_neg (by decide), if_pos (beq_self_eq_true _), run,
      takeWhileRun parts stop, dropWhileRun parts stop]
  | number written =>
    cases written with
    | plain unsigned =>
      obtain ⟨c, cs, rfl, digit⟩ := unsignedHead unsigned
      have split : splitNumber (cs ++ rest) = (cs, rest) :=
        splitNumberAppend (unsignedRest unsigned).2 separate
      have starts : startsNumber c (cs ++ rest) = true := by rw [startsNumber, digit, Bool.true_or]
      refine ⟨c, cs, rfl, ?_⟩
      rw [firstNumber (ordinaryWhere (by decide) digit) starts, split]
    | minus unsigned =>
      obtain ⟨c, cs, rfl, digit⟩ := unsignedHead unsigned
      have split := splitNumberAppend (unsignedRest unsigned).1 separate
      have sign : isOrdinary '-' = true := by decide
      refine ⟨'-', c :: cs, rfl, ?_⟩
      rw [firstNumber sign (by simp [startsNumber, digit]), split]
  | @symbol c cs start parts =>
    have stop := separate.stops fun _ => boundaryNotSymbolPart
    refine ⟨c, cs, rfl, ?_⟩
    rw [firstSymbol start, run, takeWhileRun parts stop, dropWhileRun parts stop]
  | @operator c cs start noSymbol noNumber parts =>
    have stop := separate.stops fun _ => boundaryNotOperatorPart
    have starts : startsNumber c (cs ++ rest) = false := by
      cases cs with
      | nil =>
        have none : rest.head?.any isDigit = false := by
          cases rest with
          | nil => rfl
          | cons d rest => exact boundaryNotDigit (separate d rfl)
        have digit : isDigit c = false := by simpa [startsNumber] using noNumber
        simp [startsNumber, digit, none]
      | cons d cs => exact noNumber
    refine ⟨c, cs, rfl, ?_⟩
    rw [firstOperator start noSymbol starts, run, takeWhileRun parts stop, dropWhileRun parts stop]
  | openList | closeList | openBrace | closeBrace | quote =>
    exact ⟨_, [], rfl, firstDelimiter (by decide) rest⟩

def Piece.Formed (p : Piece) : Prop := ∀ kind, p.kind = .token kind → Lexeme kind p.text

theorem numberLexeme {c : Char} {cs : List Char} (h : startsNumber c cs = true) :
    Lexeme .number (c :: (splitNumber cs).1) := by
  by_cases digit : isDigit c = true
  · obtain ⟨d, unsigned⟩ := splitNumberText false [c] cs (by simpa using digit) (by simp)
    exact .number (.plain unsigned)
  · have sign : c = '-' ∧ cs.head?.any isDigit = true := by
      simpa [startsNumber, digit] using h
    obtain ⟨d, unsigned⟩ := splitNumberText true [] cs nofun (headDigitTakes sign.2)
    rw [sign.1]
    exact .number (.minus unsigned)

theorem formedIf {p : Prop} [Decidable p] {yes no : Piece × List Char} (pos : p → yes.1.Formed)
    (neg : ¬ p → no.1.Formed) : (if p then yes else no).1.Formed := by
  split
  · exact pos (by assumption)
  · exact neg (by assumption)

theorem formedSingle {kind : TokenKind} {c mark : Char} {cs : List Char} (same : (c == mark) = true)
    (lexeme : Lexeme kind [mark]) : (single (.token kind) c cs).1.Formed := by
  rw [beq_iff_eq.1 same]
  rintro _ ⟨⟩
  exact lexeme

theorem operatorLexeme {c : Char} {cs : List Char} (start : isOperatorStart c = true)
    (noSymbol : ¬ isSymbolStart c = true) (noNumber : ¬ startsNumber c cs = true) :
    Lexeme .operator (c :: cs.takeWhile isOperatorPart) := by
  have fewer : startsNumber c (cs.takeWhile isOperatorPart) = false := by
    cases cs with
    | nil => exact Bool.eq_false_iff.2 noNumber
    | cons d cs =>
      cases part : isOperatorPart d with
      | true =>
        rw [List.takeWhile_cons_of_pos part]
        exact Bool.eq_false_iff.2 noNumber
      | false =>
        have digit : isDigit c = false := by
          rw [startsNumber, Bool.or_eq_true, not_or] at noNumber
          exact Bool.eq_false_iff.2 noNumber.1
        rw [List.takeWhile_cons_of_neg (Bool.eq_false_iff.1 part), startsNumber, digit]
        exact Bool.and_false _
  exact .operator start (Bool.eq_false_iff.2 noSymbol) fewer (takeWhileAll isOperatorPart cs)

theorem firstFormed (c : Char) (cs : List Char) : (first c cs).1.Formed := by
  unfold first
  refine formedIf (fun _ => nofun) fun _ => ?_
  refine formedIf (fun quote => ?_) fun _ => ?_
  · rw [beq_iff_eq.1 quote]
    split
    · rename_i body rest closed
      rintro _ ⟨⟩
      exact .string (by simpa using splitStringExtends closed [])
    · exact nofun
  refine formedIf (fun hash => ?_) fun _ => ?_
  · rw [beq_iff_eq.1 hash]
    rintro _ ⟨⟩
    exact .hex (takeWhileAll isHexPart cs)
  refine formedIf (fun starts => ?_) fun noNumber => ?_
  · rintro _ ⟨⟩
    exact numberLexeme starts
  refine formedIf (fun start => ?_) fun noSymbol => ?_
  · rintro _ ⟨⟩
    exact .symbol start (takeWhileAll isSymbolPart cs)
  refine formedIf (fun same => formedSingle same .openList) fun _ => ?_
  refine formedIf (fun same => formedSingle same .closeList) fun _ => ?_
  refine formedIf (fun same => formedSingle same .openBrace) fun _ => ?_
  refine formedIf (fun same => formedSingle same .closeBrace) fun _ => ?_
  refine formedIf (fun start => ?_) fun _ => ?_
  · rintro _ ⟨⟩
    exact operatorLexeme start noSymbol noNumber
  exact formedIf (fun same => formedSingle same .quote) fun _ => nofun

theorem piecesFormed (cs : List Char) : ∀ p ∈ pieces cs, p.Formed := by
  fun_induction pieces cs with
  | case1 => simp
  | case2 c cs ih =>
    intro p member
    rcases List.mem_cons.1 member with rfl | later
    · exact firstFormed c cs
    · exact ih p later

/-- Some source text has this token. -/
def Token.Lexical (t : Token) : Prop := ∃ source, t ∈ lex source

theorem lexemeOfLexical {t : Token} (h : t.Lexical) : Lexeme t.kind t.text.toList := by
  obtain ⟨source, member⟩ := h
  obtain ⟨p, inside, same⟩ := List.mem_filterMap.1 member
  unfold token? at same
  split at same
  · rename_i kind kinded
    cases same
    simpa using piecesFormed _ p inside kind kinded
  · cases same

def tokens (cs : List Char) : List Token := (pieces cs).filterMap token?

theorem tokensFirst {kind : TokenKind} {text rest : List Char}
    (leads : ∃ c cs, text = c :: cs ∧ first c (cs ++ rest) = (⟨.token kind, text⟩, rest)) :
    tokens (text ++ rest) = ⟨kind, .ofList text⟩ :: tokens rest := by
  obtain ⟨c, cs, rfl, whole⟩ := leads
  rw [tokens, List.cons_append, pieces, whole]
  rfl

theorem tokensLexeme {kind : TokenKind} {text rest : List Char} (h : Lexeme kind text)
    (separate : Separate rest) :
    tokens (text ++ rest) = ⟨kind, .ofList text⟩ :: tokens rest :=
  tokensFirst (firstLexeme h separate)

theorem tokensString {text : List Char} (h : Lexeme .string text) (rest : List Char) :
    tokens (text ++ rest) = ⟨.string, .ofList text⟩ :: tokens rest :=
  tokensFirst (firstString h rest)

theorem tokensNil : tokens [] = [] := by
  rw [tokens, pieces]
  rfl

theorem tokensDelimiter (kind : TokenKind) {c : Char} (h : (kind, c) ∈ delimiters)
    (rest : List Char) : tokens (c :: rest) = ⟨kind, .ofList [c]⟩ :: tokens rest := by
  rw [tokens, pieces, firstDelimiter h]
  rfl

theorem firstBlank {c : Char} (h : isBlank c = true) (cs : List Char) :
    first c cs = single .noise c cs := by
  have ordinary : isOrdinary c = true := by
    rw [isOrdinary, blankNotAmong (by decide) h]
    rfl
  have noOperator : isOperatorStart c = false := blankNotAmong (by decide) h
  have marks (d : Char) (printed : isPrinted d = true) : (c == d) = false :=
    beq_false_of_ne (blankNe h printed)
  rw [firstOrdinary ordinary]
  simp only [startsNumber, isSymbolStart, blankNotDigit h, blankNotWord h, noOperator,
    marks '-' (by decide), marks '?' (by decide), marks '!' (by decide), marks '(' (by decide),
    marks ')' (by decide), marks '\x7b' (by decide), marks '\x7d' (by decide),
    marks '\'' (by decide)]
  rfl

theorem tokensBlank {c : Char} (h : isBlank c = true) (cs : List Char) :
    tokens (c :: cs) = tokens cs := by
  rw [tokens, pieces, firstBlank h]
  rfl

theorem Lexeme.alone {kind : TokenKind} {text : List Char} (h : Lexeme kind text) :
    lex (.ofList text) = [⟨kind, .ofList text⟩] := by
  have nothing : Separate [] := nofun
  change tokens (String.ofList text).toList = _
  rw [String.toList_ofList]
  simpa [tokensNil] using tokensLexeme h nothing

theorem Lexeme.lexical {kind : TokenKind} {text : List Char} (h : Lexeme kind text) :
    Token.Lexical ⟨kind, .ofList text⟩ :=
  ⟨.ofList text, by rw [h.alone]; exact List.mem_singleton_self _⟩

end DynLisp
