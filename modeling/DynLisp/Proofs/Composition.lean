import DynLisp.Proofs.Atomicity
import DynLisp.Proofs.LineBreak

/-! Sources line after line. A source that leaves no string open can be cut at its line
breaks: its tokens and forms are those of the parts, and a session evaluates it as it
would evaluate the parts one after the other. -/

namespace DynLisp

/-- No double quote is dropped, as one that opens no complete string would be. -/
def ClosesStrings (source : String) : Prop := ∀ p ∈ pieces source.toList, p ≠ Piece.openQuote

theorem ClosesStrings.lexBreak {first : String} (closed : ClosesStrings first) (second : String) :
    lex (first ++ "\n" ++ second) = lex first ++ lex second :=
  DynLisp.lexBreak fun p member opened => absurd opened (closed p member)

theorem Form.parseBreak {first second : String} {fs gs : List Value} (closed : ClosesStrings first)
    (readFirst : parse first = .ok fs) (readSecond : parse second = .ok gs) :
    parse (first ++ "\n" ++ second) = .ok (fs ++ gs) := by
  obtain ⟨some, spelled⟩ := (parseAccepts first fs).mp readFirst
  obtain ⟨_, more⟩ := (parseAccepts second gs).mp readSecond
  rw [parseAccepts, closed.lexBreak second]
  exact ⟨by simp [some], spelled.append more⟩

theorem Run.formsFrom {host : Host} {forms : List Value} (some : forms ≠ []) (v w : Value) :
    (forms.foldlM (fun _ form => topLevel host form) v) =
      forms.foldlM (fun _ form => topLevel host form) w := by
  cases forms with
  | nil => exact absurd rfl some
  | cons f rest => rfl

namespace Session

/-- Evaluates a source and then, unless it failed, another. -/
def evalBoth (s : Session) (first second : Source) : Answer Value :=
  match s.eval first with
  | (.ok _, after) => after.eval second
  | (.error fault, after) => (.error fault, after)

theorem evalBreak (s : Session) {first second : String} {fs gs : List Value}
    (closed : ClosesStrings first) (readFirst : Form.parse first = .ok fs)
    (readSecond : Form.parse second = .ok gs) :
    s.eval (.text (first ++ "\n" ++ second)) = s.evalBoth (.text first) (.text second) := by
  rw [evalParsed (Form.parseBreak closed readFirst readSecond), evalBoth, evalParsed readFirst]
  simp only [run, List.foldlM_append, Run.execBind]
  rcases (fs.foldlM (fun _ form => Run.topLevel s.host form) .nil).exec s.machine with ⟨fault | v, after⟩
  · rfl
  · simp only [evalParsed readSecond, run, Run.formsFrom (Form.parseSome readSecond) v .nil]

/-- Two sources with a line break between them are read and evaluated as one after the other. -/
theorem linesCompose {first : String} (closed : ClosesStrings first) (second : String) :
    lex (first ++ "\n" ++ second) = lex first ++ lex second ∧
    ∀ fs gs, Form.parse first = .ok fs → Form.parse second = .ok gs →
      Form.parse (first ++ "\n" ++ second) = .ok (fs ++ gs) ∧
      ∀ s : Session, s.eval (.text (first ++ "\n" ++ second)) =
        s.evalBoth (.text first) (.text second) :=
  ⟨closed.lexBreak second, fun _ _ readFirst readSecond =>
    ⟨Form.parseBreak closed readFirst readSecond,
      fun s => s.evalBreak closed readFirst readSecond⟩⟩

theorem definitionThenUse :
    let s := fresh (.bare 400 400) ⟨[]⟩ (.ofText "" .newline) .empty
    ClosesStrings "(define x 'a) ; \"" ∧
      (s.eval (.text ("(define x 'a) ; \"" ++ "\n" ++ "x"))).1 = .ok (.symbol "a") := by
  intro s
  let definition : Value := .list [.symbol "define", .symbol "x", .quote (.symbol "a")]
  have closed : ClosesStrings "(define x 'a) ; \"" := by
    unfold ClosesStrings
    decide +kernel
  have tokens : lex "(define x 'a) ; \"" = [⟨.openList, "("⟩, ⟨.symbol, "define"⟩,
      ⟨.symbol, "x"⟩, ⟨.quote, "'"⟩, ⟨.symbol, "a"⟩, ⟨.closeList, ")"⟩] := by decide +kernel
  have readFirst : Form.parse "(define x 'a) ; \"" = .ok [definition] := by
    rw [Form.parseLex, tokens]
    rfl
  have name : lex "x" = [⟨.symbol, "x"⟩] := by decide +kernel
  have readSecond : Form.parse "x" = .ok [.symbol "x"] := by
    rw [Form.parseLex, name]
    rfl
  obtain ⟨_, composed⟩ := linesCompose closed "x"
  refine ⟨closed, ?_⟩
  rw [(composed _ _ readFirst readSecond).2 s, evalBoth, evalParsed readFirst]
  change (eval (s.run (Run.topLevel s.host definition)).2 (.text "x")).1 = _
  rw [evalParsed readSecond]
  rfl

end Session

end DynLisp
