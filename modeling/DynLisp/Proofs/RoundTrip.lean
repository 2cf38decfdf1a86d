import DynLisp.Proofs.Grammar
import DynLisp.Proofs.Numeral
import DynLisp.Value.Equality

/-! Printing and reading back. The text of a readable value falls into the tokens of one
form, wherever a boundary follows it, and that form equals the value. An escaped text is
one token before any other text. -/

namespace DynLisp

open Piece Form

namespace Escape

theorem splitEncodedChar (c : Char) {cs body rest : List Char}
    (h : splitString? cs = some (body, rest)) :
    splitString? (encodeChar c ++ cs) = some (encodeChar c ++ body, rest) := by
  fun_cases encodeChar c with
  | case6 _ notBackslash notQuote =>
    have slash : (c == '\\') = false := by simpa using notBackslash
    rw [List.singleton_append, splitString?.eq_def]
    split
    · contradiction
    · rename_i same
      cases same
      exact absurd rfl notQuote
    · rename_i same
      cases same
      exact absurd rfl notBackslash
    · rename_i same
      cases same
      simp [slash, h]
  | _ => simp [splitString?, h]

theorem splitEncoded (cs rest : List Char) :
    splitString? (cs.flatMap encodeChar ++ '\"' :: rest) =
      some (cs.flatMap encodeChar ++ ['\"'], rest) := by
  induction cs with
  | nil => rfl
  | cons c cs ih =>
    rw [List.flatMap_cons, List.append_assoc, splitEncodedChar c ih, List.append_assoc]

theorem decodeEncodedChar (c : Char) (cs : List Char) :
    decodeChars (encodeChar c ++ cs) = c :: decodeChars cs := by
  fun_cases encodeChar c with
  | case6 _ notBackslash =>
    rw [List.singleton_append, decodeChars]
    rintro d ds rfl
    exact absurd rfl notBackslash
  | _ => simp [decodeChars, letter?]

theorem decodeEncoded (cs : List Char) : decodeChars (cs.flatMap encodeChar) = cs := by
  induction cs with
  | nil => rfl
  | cons c cs ih => rw [List.flatMap_cons, decodeEncodedChar, ih]

theorem encodeLexeme (s : String) : Lexeme .string (encode s).toList := by
  have closed := splitEncoded s.toList []
  simpa [encode] using Lexeme.string closed

theorem encodeAtom (s : String) : Token.atom ⟨.string, encode s⟩ = .ok (.text s) := by
  have body : ((encode s).toList.drop 1).dropLast = s.toList.flatMap encodeChar := by
    simp [encode]
  rw [Token.atom, body, decode, String.toList_ofList, decodeEncoded, String.ofList_toList]

/-- An escaped text ends itself. Whatever comes after it, be it another quote or a backslash, the
escaped text is one token, from which the text is read back, and the rest is read as if alone. -/
theorem encodeSelfDelimiting (s rest : String) :
    lex (encode s ++ rest) = ⟨.string, encode s⟩ :: lex rest ∧
      Token.atom ⟨.string, encode s⟩ = .ok (.text s) := by
  have leading := tokensString (encodeLexeme s) rest.toList
  rw [← String.toList_append, String.ofList_toList] at leading
  exact ⟨leading, encodeAtom s⟩

end Escape

namespace Value

/-- Finite numbers, texts, words that are one token, and lists and quotes of these. -/
inductive Readable : Value → Prop where
  | number (negative r) : Readable (.number (.finite negative r))
  | text (s) : Readable (.text s)
  | symbol {name kind} (word : kind = .symbol ∨ kind = .operator)
      (alone : lex name = [⟨kind, name⟩]) : Readable (.symbol name)
  | list {items} (all : ∀ v ∈ items, Readable v) : Readable (.list items)
  | quote {v} (payload : Readable v) : Readable (.quote v)

def Prints (text : List Char) (v : Value) : Prop :=
  ∃ ts w, Spells ts w ∧ w.same v = true ∧
    ∀ rest, Separate rest → tokens (text ++ rest) = ts ++ tokens rest

theorem printsAtom {kind : TokenKind} {text : List Char} {v w : Value} (lexeme : Lexeme kind text)
    (alone : Token.IsAtom ⟨kind, .ofList text⟩) (read : Token.atom ⟨kind, .ofList text⟩ = .ok w)
    (equal : w.same v = true) : Prints text v :=
  ⟨_, w, .atom alone read, equal, fun _ separate => tokensLexeme lexeme separate⟩

theorem printsNumber (negative : Bool) (r : Fin rankLimit) :
    Prints (Number.finite negative r).source.toList (.number (.finite negative r)) := by
  obtain ⟨d, text, equal⟩ := Number.sourceText negative r
  have read := numberTextRead text
  refine printsAtom (.number text) trivial (w := .number d.toNumber) ?_ equal
  simp only [Token.atom, read]

theorem printsText (s : String) : Prints (Escape.encode s).toList (.text s) := by
  have read := Escape.encodeAtom s
  have equal : (Value.text s).same (.text s) = true := by simp [same]
  refine printsAtom (Escape.encodeLexeme s) trivial ?_ equal
  rw [String.ofList_toList]
  exact read

theorem printsSymbol {name : String} {kind : TokenKind} (word : kind = .symbol ∨ kind = .operator)
    (alone : lex name = [⟨kind, name⟩]) : Prints name.toList (.symbol name) := by
  have lexical : Token.Lexical ⟨kind, name⟩ := ⟨name, by simp [alone]⟩
  have equal : (Value.symbol name).same (.symbol name) = true := by simp [same]
  rcases word with rfl | rfl
  all_goals
    refine printsAtom (lexemeOfLexical lexical) trivial ?_ equal
    rw [String.ofList_toList]
    rfl

theorem printsQuote {text : List Char} {v : Value} (h : Prints text v) :
    Prints ('\'' :: text) (.quote v) := by
  obtain ⟨ts, w, spelled, equal, printed⟩ := h
  refine ⟨⟨.quote, "'"⟩ :: ts, .quote w, .quote rfl spelled, by simpa [same] using equal, ?_⟩
  intro rest separate
  rw [List.cons_append, tokensDelimiter .quote (by decide), printed rest separate]
  rfl

theorem printsItems {items : List Value} (all : ∀ v ∈ items, Prints v.source.toList v) :
    ∃ ts ws, SpellsAll ts ws ∧ sameAll ws items = true ∧ ∀ rest, Separate rest →
      tokens ((" ".intercalate (sources items)).toList ++ rest) = ts ++ tokens rest := by
  induction items with
  | nil => exact ⟨[], [], .nil, rfl, fun rest _ => by simp [sources]⟩
  | cons v items ih =>
    obtain ⟨ts, w, spelled, equal, printed⟩ := all v List.mem_cons_self
    obtain ⟨us, ws, more, equals, later⟩ :=
      ih fun u member => all u (List.mem_cons_of_mem v member)
    refine ⟨ts ++ us, w :: ws, .cons spelled more, by simp [sameAll, equal, equals], ?_⟩
    intro rest separate
    have tail := later rest separate
    -- What follows an item is a blank or the boundary after them all; either ends its last token.
    cases items with
    | nil =>
      rw [List.append_assoc, ← tail]
      simpa [sources] using printed rest separate
    | cons u items =>
      have blank : isBlank ' ' = true := by decide
      have apart (cs : List Char) : Separate (' ' :: cs) := by
        rintro c ⟨⟩
        decide
      rw [sources, sources, String.intercalate_cons_cons, ← sources]
      simp only [String.toList_append, List.append_assoc]
      rw [← tail]
      exact (printed _ (apart _)).trans (congrArg (ts ++ ·) (tokensBlank blank _))

theorem printsList {items : List Value} (all : ∀ v ∈ items, Prints v.source.toList v) :
    Prints (Value.list items).source.toList (.list items) := by
  obtain ⟨ts, ws, spelled, equal, printed⟩ := printsItems all
  have closes (cs : List Char) : Separate (')' :: cs) := by
    rintro c ⟨⟩
    decide
  refine ⟨⟨.openList, "("⟩ :: (ts ++ [⟨.closeList, ")"⟩]), .list ws, .list rfl spelled rfl,
    by simpa [same] using equal, fun rest _ => ?_⟩
  have inside := printed (')' :: rest) (closes rest)
  rw [tokensDelimiter .closeList (by decide)] at inside
  have text : (Value.list items).source.toList ++ rest =
      '(' :: ((" ".intercalate (sources items)).toList ++ ')' :: rest) := by
    simp [source]
  rw [text, tokensDelimiter .openList (by decide), inside]
  simp

theorem Readable.prints {v : Value} (h : v.Readable) : Prints v.source.toList v := by
  induction h with
  | number negative r => exact printsNumber negative r
  | text s => exact printsText s
  | symbol word alone => exact printsSymbol word alone
  | list _ ih => exact printsList ih
  | @quote v _ ih =>
    have text : (Value.quote v).source.toList = '\'' :: v.source.toList := by simp [source]
    rw [text]
    exact printsQuote ih

/-- Reading what was printed gives the value back. -/
theorem sourceRoundTrip {v : Value} (readable : v.Readable) :
    ∃ w, parse v.source = .ok [w] ∧ w.same v = true := by
  obtain ⟨ts, w, spelled, equal, printed⟩ := readable.prints
  have whole : lex v.source = ts := by
    have all := printed [] nofun
    rwa [List.append_nil, tokensNil, List.append_nil] at all
  refine ⟨w, ?_, equal⟩
  rw [parseLex, whole, if_neg spelled.some, readAllSpells (.single spelled)]

theorem nestedRoundTrip :
    ∃ w, parse (quote (list [number Number.zero, text "\n", symbol "a"])).source = .ok [w] ∧
      w.same (quote (list [number Number.zero, text "\n", symbol "a"])) = true := by
  have letter : Lexeme .symbol ['a'] := .symbol (by decide +kernel) nofun
  refine sourceRoundTrip (.quote (.list ?_))
  simp only [List.forall_mem_cons]
  exact ⟨.number false _, .text _, .symbol (.inl rfl) letter.alone, nofun⟩

end Value

end DynLisp
