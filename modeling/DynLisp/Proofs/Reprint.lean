import DynLisp.Proofs.Occurrence
import DynLisp.Proofs.ReaderFaults
import DynLisp.Proofs.RoundTrip
import Mathlib.Data.List.Forall2

/-! Printing what was read. A form that some source gives prints as a text that reads as one
form again. The two are equal but for the numbers beyond the finite ones: a decimal literal may
be rounded to infinity, and the text of an infinity is a word, which reads as a symbol. -/

namespace DynLisp

open Form

theorem decimalNotNaN (d : Decimal) : d.toNumber.isNaN = false := by
  have ranked (negative : Bool) (rank : Nat) : (Number.ofRank negative rank).isNaN = false := by
    unfold Number.ofRank
    split <;> rfl
  unfold Decimal.toNumber
  split
  · rfl
  · split
    · split
      · rfl
      · exact ranked _ _
    · split
      · rfl
      · exact ranked _ _

theorem hexNumberFinite {text : String} {x : Number} (read : Token.hexNumber text = .ok x) :
    x.isFinite = true := by
  by_cases digits : Token.IsHexText text
  · rw [hexText digits] at read
    split at read
    · rename_i below
      cases read
      exact (Number.ofNatFinite _).2 below
    · cases read
  · rw [hexNotText digits] at read
    cases read

namespace Value

mutual

/-- The value that the text of a value stands for. -/
def reread : Value → Value
  | number x => if x.isFinite then .number x else .symbol x.source
  | list items => .list (rereadAll items)
  | quote v => .quote v.reread
  | v => v

def rereadAll : List Value → List Value
  | [] => []
  | v :: vs => v.reread :: rereadAll vs

end

inductive Written : Value → Prop where
  | number {x} (known : x.isNaN = false) : Written (.number x)
  | text (s) : Written (.text s)
  | symbol {name kind} (word : kind = .symbol ∨ kind = .operator)
      (alone : lex name = [⟨kind, name⟩]) : Written (.symbol name)
  | list {items} (all : ∀ v ∈ items, Written v) : Written (.list items)
  | quote {v} (payload : Written v) : Written (.quote v)

def IsFinite (v : Value) : Prop := ∀ x, (number x).Occurs v → x.isFinite = true

theorem atomWritten {t : Token} {v : Value} (lexical : t.Lexical) (alone : t.IsAtom)
    (read : t.atom = .ok v) : v.Written := by
  have lexeme := lexemeOfLexical lexical
  obtain ⟨kind, text⟩ := t
  have single : lex text = [⟨kind, text⟩] := by simpa using lexeme.alone
  cases kind with
  | string =>
    cases read
    exact .text _
  | symbol =>
    cases read
    exact .symbol (.inl rfl) single
  | operator =>
    cases read
    exact .symbol (.inr rfl) single
  | number =>
    obtain ⟨d, written⟩ := lexeme.numberText
    have number := numberTextRead written
    rw [String.ofList_toList] at number
    simp only [Token.atom, number] at read
    cases read
    exact .number (decimalNotNaN d)
  | hex =>
    obtain ⟨x, converted⟩ := alone
    have finite := hexNumberFinite converted
    simp only [Token.atom, converted] at read
    cases read
    cases x with
    | nan => cases finite
    | infinite | finite => exact .number rfl
  | _ => exact absurd alone id

end Value

namespace Form

open Value (Written)

mutual

theorem Spells.written {ts : List Token} {v : Value} : Spells ts v →
    (∀ t ∈ ts, t.Lexical) → v.Written
  | .atom alone read, lexical => Value.atomWritten (lexical _ (.head _)) alone read
  | .list _ items _, lexical => .list (items.written fun t member => lexical t (by simp [member]))
  | .brace _ items _, lexical =>
    .quote (.list (items.written fun t member => lexical t (by simp [member])))
  | .quote _ payload, lexical => .quote (payload.written fun t member => lexical t (.tail _ member))

theorem SpellsAll.written {ts : List Token} {vs : List Value} : SpellsAll ts vs →
    (∀ t ∈ ts, t.Lexical) → ∀ v ∈ vs, v.Written
  | .nil, _ => nofun
  | .cons first rest, lexical => List.forall_mem_cons.2
    ⟨first.written fun t member => lexical t (List.mem_append_left _ member),
      rest.written fun t member => lexical t (List.mem_append_right _ member)⟩

end

theorem parsedWritten {source : String} {forms : List Value} (read : parse source = .ok forms) :
    ∀ f ∈ forms, f.Written :=
  ((parseAccepts source forms).1 read).2.written (lexLexical source)

end Form

namespace Value

theorem sourcesMap (items : List Value) : sources items = items.map source := by
  induction items with
  | nil => rfl
  | cons v items ih => rw [sources, ih, List.map_cons]

theorem rereadAllMap (items : List Value) : rereadAll items = items.map reread := by
  induction items with
  | nil => rfl
  | cons v items ih => rw [rereadAll, ih, List.map_cons]

theorem infinityAlone (negative : Bool) : ∃ kind, (kind = .symbol ∨ kind = .operator) ∧
    lex (Number.infinite negative).source = [⟨kind, (Number.infinite negative).source⟩] := by
  cases negative with
  | false => exact ⟨.symbol, .inl rfl, by decide +kernel⟩
  | true => exact ⟨.operator, .inr rfl, by decide +kernel⟩

theorem Written.reread {v : Value} (h : v.Written) : v.reread.Readable := by
  induction h with
  | @number x known =>
    cases x with
    | nan => cases known
    | finite negative r => exact .number negative r
    | infinite negative =>
      obtain ⟨kind, word, alone⟩ := infinityAlone negative
      exact .symbol word alone
  | text s => exact .text s
  | symbol word alone => exact .symbol word alone
  | @list items _ ih =>
    rw [Value.reread, rereadAllMap]
    exact .list (List.forall_mem_map.2 ih)
  | quote _ ih => exact .quote ih

theorem Written.rereadSource {v : Value} (h : v.Written) : v.reread.source = v.source := by
  induction h with
  | @number x =>
    rw [Value.reread]
    split <;> rfl
  | text | symbol => rfl
  | @list items _ ih =>
    have same : (items.map Value.reread).map source = items.map source := by
      rw [List.map_map]
      exact List.map_congr_left ih
    rw [Value.reread, rereadAllMap, source, source, sourcesMap, sourcesMap, same]
  | quote _ ih => rw [Value.reread, source, source, ih]

theorem sameAllPairs (ws vs : List Value) :
    sameAll ws vs = true ↔ List.Forall₂ (fun w v => w.same v = true) ws vs := by
  induction ws generalizing vs with
  | nil => cases vs <;> simp [sameAll]
  | cons w ws ih => cases vs <;> simp [sameAll, ih]

@[simp] theorem finiteNumber {x : Number} : (number x).IsFinite ↔ x.isFinite = true := by
  constructor
  · exact fun h => h x .here
  · intro finite y occurs
    cases occurs
    exact finite

@[simp] theorem finiteText (s : String) : (text s).IsFinite := by
  intro x occurs
  cases occurs

@[simp] theorem finiteSymbol (name : String) : (symbol name).IsFinite := by
  intro x occurs
  cases occurs

@[simp] theorem finiteList {items : List Value} : (list items).IsFinite ↔ ∀ v ∈ items, v.IsFinite := by
  constructor
  · exact fun h v member x occurs => h x (.item member occurs)
  · intro h x occurs
    cases occurs with
    | item member inside => exact h _ member x inside

@[simp] theorem finiteQuote {v : Value} : (quote v).IsFinite ↔ v.IsFinite := by
  constructor
  · exact fun h x occurs => h x (.payload occurs)
  · intro h x occurs
    cases occurs with
    | payload inside => exact h x inside

theorem Written.sameIff {v w : Value} (h : v.Written) (reads : w.same v.reread = true) :
    w.same v = true ↔ v.IsFinite := by
  induction h generalizing w with
  | @number x =>
    rw [finiteNumber]
    cases finite : x.isFinite with
    | true => simpa [Value.reread, finite] using reads
    | false =>
      -- What was read is a symbol.
      simp only [Value.reread, finite] at reads
      cases w with
      | symbol => simp [same]
      | _ => cases reads
  | text s => exact iff_of_true reads (finiteText s)
  | @symbol name => exact iff_of_true reads (finiteSymbol name)
  | @list items all ih =>
    rw [Value.reread, rereadAllMap] at reads
    cases w with
    | list ws =>
      clear all
      rw [same, sameAllPairs] at reads ⊢
      rw [List.forall₂_map_right_iff] at reads
      rw [finiteList]
      induction reads with
      | nil => simp
      | cons first _ rest =>
        rw [List.forall₂_cons, List.forall_mem_cons, ih _ (.head _) first]
        exact and_congr_right fun _ => rest fun v member => ih v (.tail _ member)
    | _ => cases reads
  | quote _ ih =>
    cases w with
    | quote w =>
      rw [finiteQuote, same]
      exact ih reads
    | _ => cases reads

theorem Readable.rereads {items : List Value} (some : items ≠ []) (all : ∀ v ∈ items, v.Readable) :
    ∃ ws, parse (" ".intercalate (sources items)) = .ok ws ∧ sameAll ws items = true := by
  obtain ⟨ts, ws, spelled, equal, printed⟩ := printsItems fun v member => (all v member).prints
  have whole : lex (" ".intercalate (sources items)) = ts := by
    have all := printed [] nofun
    rwa [List.append_nil, tokensNil, List.append_nil] at all
  refine ⟨ws, ?_, equal⟩
  rw [parseAccepts, whole]
  refine ⟨?_, spelled⟩
  cases spelled with
  | nil => exact fun _ => some (List.forall₂_nil_left_iff.1 ((sameAllPairs _ _).1 equal))
  | cons first _ => simp [first.some]

/-- Printed and read again, a form comes back as itself, save that infinities turn into symbols. -/
theorem formsReread {source : String} {forms : List Value} (read : parse source = .ok forms)
    {f : Value} (member : f ∈ forms) : ∃ w, parse f.source = .ok [w] ∧
      w.same f.reread = true ∧ (w.same f = true ↔ f.IsFinite) := by
  have written := parsedWritten read f member
  have readable : ∀ v ∈ [f.reread], v.Readable := by simpa using written.reread
  obtain ⟨ws, again, equal⟩ := Readable.rereads (List.cons_ne_nil _ _) readable
  rw [sameAllPairs] at equal
  obtain ⟨w, _, first, rest, rfl⟩ := List.forall₂_cons_right_iff.1 equal
  obtain rfl := List.forall₂_nil_right_iff.1 rest
  rw [sources, sources, String.intercalate_singleton, written.rereadSource] at again
  exact ⟨w, again, first, written.sameIff first⟩

theorem unknownEscapeReread :
    let f : Value := .list [.symbol "a", .text "\\q"]
    parse "(a \"\\q\")" = .ok [f] ∧ ∃ w, parse f.source = .ok [w] ∧ w.same f = true := by
  intro f
  have tokens : lex "(a \"\\q\")" = [⟨.openList, "("⟩, ⟨.symbol, "a"⟩, ⟨.string, "\"\\q\""⟩,
      ⟨.closeList, ")"⟩] := by decide +kernel
  have read : parse "(a \"\\q\")" = .ok [f] := by
    rw [parseLex, tokens]
    rfl
  obtain ⟨w, again, _, equal⟩ := formsReread read (List.mem_singleton_self f)
  exact ⟨read, w, again, equal.2 (by simp [f])⟩

theorem infinityRereadsAsSymbol :
    let f : Value := .number (.infinite false)
    parse "1e999" = .ok [f] ∧ parse f.source = .ok [.symbol "inf"] ∧
      (Value.symbol "inf").same f = false := by
  intro f
  have literal : lex "1e999" = [⟨.number, "1e999"⟩] := by decide +kernel
  have word : lex "inf" = [⟨.symbol, "inf"⟩] := by decide +kernel
  have rounded : Number.ofText? "1e999" = some (.infinite false) := by decide +kernel
  refine ⟨?_, ?_, rfl⟩
  · have read : Token.atom ⟨.number, "1e999"⟩ = .ok f := by simp only [Token.atom, rounded, f]
    have spelled : Spells [⟨.number, "1e999"⟩] f := .atom trivial read
    rw [parseAccepts, literal]
    exact ⟨List.cons_ne_nil _ _, .single spelled⟩
  · change parse "inf" = _
    rw [parseLex, word]
    rfl

end Value

end DynLisp
