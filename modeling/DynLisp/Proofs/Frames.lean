import DynLisp.Proofs.Calls
import DynLisp.Proofs.Visibility

/-! Forms whose work is to evaluate others in a new scope: by a builtin that is given
values, by one that is given source, or by the body of a lambda. An empty scope hides
no name, so all that the new scope does is to take the definitions made in it. -/

namespace DynLisp

open Evaluator Run

def Value.lambdaForm (params : List String) (body : List Value) : Value :=
  .list (Library.named "lambda" :: .list (params.map .symbol) :: body)

theorem asSymbols (params : List String) :
    (params.map Value.symbol).mapM Value.asSymbol = .ok params := by
  induction params with
  | nil => rfl
  | cons name params ih =>
    rw [List.map_cons, List.mapM_cons, ih]
    rfl

theorem evalLambdaForm (host : Host) (n : Nat) (params : List String) (body : List Value) :
    (atDepth host (n + 2)).eval (Value.lambdaForm params body) = pure (.lambda params body) := by
  have made : Library.lambdaOf (.list (params.map .symbol) :: body) =
      .ok (.lambda params body) := by
    show (do
      let names ← (params.map Value.symbol).mapM Value.asSymbol
      return Value.lambda names body) = _
    rw [asSymbols]
    rfl
  show inScope (Run.ofExcept (Library.lambdaOf (.list (params.map .symbol) :: body))) = _
  rw [made]
  rfl

theorem evalLambdaCall (host : Host) (n : Nat) {params : List String} {forms : List Value}
    (fit : forms.length = params.length) (body : List Value) :
    (atDepth host (n + 3)).eval (.list (Value.lambdaForm params body :: forms)) =
      inScope (do
        (atDepth host (n + 2)).runLambda params body (← forms.mapM (atDepth host (n + 2)).eval)) := by
  show inScope ((atDepth host (n + 2)).eval (Value.lambdaForm params body) >>=
    (atDepth host (n + 2)).finishCall forms) = _
  rw [evalLambdaForm, pure_bind, finishCall, if_pos fit]

theorem evalThunk (host : Host) (n : Nat) (body : List Value) :
    (atDepth host (n + 3)).eval (.list [Value.lambdaForm [] body]) =
      inScope ((atDepth host (n + 2)).evalBody body) :=
  evalLambdaCall host n rfl body

theorem evalIfTrue (host : Host) (n : Nat) (e : Value) :
    (atDepth host (n + 2)).eval (.list [Library.named "if", .bool true, e]) =
      inScope ((atDepth host (n + 1)).eval e) := by
  have accepted : (Arity.among [2, 3]).accepts 2 = true := (Arity.acceptsAmong _ _).2 (by simp)
  exact congrArg inScope (if_pos accepted)

theorem evalLetNone (host : Host) (n : Nat) (e : Value) (es : List Value) :
    (atDepth host (n + 2)).eval (.list (Library.named "let" :: .list [] :: e :: es)) =
      inScope ((atDepth host (n + 1)).evalBody (e :: es)) := rfl

section

variable {F : HostFunction → Prop} {E : Fault → Prop} {m m' : Machine}

theorem namesCorrespond (uses : m.stack.UsesOnly F) : m.Corresponds (.byNames F E) m where
  stack :=
    { visible := fun name v found => ⟨found, uses name v found⟩
      hidden := fun _ => .inl
      depth := nofun }
  input := rfl
  output := rfl
  nextMark := rfl
  raises _ _ := trivial

/-- Only what names resolve to has to be kept. -/
theorem Machine.Corresponds.restack (h : m.Corresponds (.byNames F E) m') {s t : ScopeStack}
    (left : ∀ name, s.lookup? name = m.stack.lookup? name)
    (right : ∀ name, t.lookup? name = m'.stack.lookup? name) :
    Corresponds (.byNames F E) { m with stack := s } { m' with stack := t } where
  stack :=
    { visible := fun name v found => right name ▸ h.stack.visible name v (left name ▸ found)
      hidden := fun name absent => right name ▸ h.stack.hidden name (left name ▸ absent)
      depth := nofun }
  input := h.input
  output := h.output
  nextMark := h.nextMark
  raises := h.raises

end

/-- The runs of the forms are one run. If the host keeps the scopes it leaves them as they were; and if
the host functions that can be reached see only names, what it gives, reads and writes is what the
form alone does, one evaluation less deep. -/
theorem freshFramesAgree (host : Host) (n : Nat) (e : Value) (es : List Value) (m : Machine) :
    let eval := (atDepth host (n + 3)).eval
    let sequenced := eval (.list [Library.named "seq", e])
    let ended := sequenced.exec m
    let alone := ((atDepth host (n + 2)).eval e).exec m
    (eval (.list [Library.named "eval", .quote e]) = sequenced ∧
      eval (.list [Library.named "let", .list [], e]) = sequenced ∧
      eval (.list [Value.lambdaForm [] [e]]) = sequenced ∧
      eval (.list [Library.named "if", .bool true, e]) = sequenced) ∧
    (eval (.list (Library.named "let" :: .list [] :: e :: es)) =
        eval (.list (Library.named "seq" :: e :: es)) ∧
      eval (.list [Value.lambdaForm [] (e :: es)]) =
        eval (.list (Library.named "seq" :: e :: es))) ∧
    (host.KeepsScopes → ended.2.stack = m.stack ∧
      ∀ F, host.SeesNames F (fun _ => False) → e.UsesOnly F → m.stack.UsesOnly F →
        ended.1 = alone.1 ∧ ended.2.input = alone.2.input ∧ ended.2.output = alone.2.output) := by
  intro eval sequenced ended alone
  have entered : sequenced = inScope ((atDepth host (n + 2)).eval e) := by
    rw [← evalBodySingle]
    exact evalSequence host (n + 1) [e]
  refine ⟨⟨?_, ?_, ?_, ?_⟩, ⟨?_, ?_⟩, fun keeps => ?_⟩
  · exact entered.symm
  · rw [entered, ← evalBodySingle]
    exact evalLetNone host (n + 1) e []
  · rw [entered, ← evalBodySingle]
    exact evalThunk host n [e]
  · rw [entered]
    exact evalIfTrue host (n + 1) e
  · exact (evalLetNone host (n + 1) e es).trans (evalSequence host (n + 1) (e :: es)).symm
  · exact (evalThunk host n (e :: es)).trans (evalSequence host (n + 1) (e :: es)).symm
  · have ends : ended = _ := entered ▸ execScoped ((localAtDepth keeps (n + 2)).eval e) m
    rw [ends]
    refine ⟨rfl, fun F sees uses usesNames => ?_⟩
    -- Nothing is excused: the two stacks resolve the same names.
    have same : m.Corresponds (.byNames F fun _ => False) { m with stack := m.stack.enter } :=
      (namesCorrespond usesNames).restack (fun _ => rfl) (ScopeStack.lookupEnter m.stack)
    rcases followsEval sees (n + 2) uses _ _ same with ⟨_, _, ⟨⟩, _⟩ | agree
    exact ⟨agree.result.symm, agree.input.symm, agree.output.symm⟩

theorem definitionStaysInside :
    let host := Host.callBack 400 400
    let e : Value := .list [.builtin ⟨"define", .define, .atLeast 2, true⟩, .symbol "a", .bool true]
    let m : Machine := ⟨⟨[], ⟨[("b", .nil)]⟩⟩, .ofText "" .newline, .empty, [], 0⟩
    let ended := ((atDepth host 4).eval (.list [Library.named "seq", e])).exec m
    let alone := ((atDepth host 3).eval e).exec m
    host.KeepsScopes ∧ host.SeesNames (fun _ => True) (fun _ => False) ∧
      (e.UsesOnly fun _ => True) ∧ (m.stack.UsesOnly fun _ => True) ∧
      ended.1 = .ok .nil ∧ alone.1 = .ok .nil ∧
      ended.2.stack.lookup? "a" = none ∧ alone.2.stack.lookup? "a" = some (.bool true) := by
  intro host e m ended alone
  have keeps : host.KeepsScopes := Host.callBackKeepsScopes 400 400
  have sees : host.SeesNames (fun _ => True) (fun _ => False) := Host.callBackFollows 400 400
  have uses : e.UsesOnly fun _ => True := by simp [e]
  have usesNames : m.stack.UsesOnly fun _ => True := by
    intro name v found
    have here : [("b", Value.nil)].lookup name = some v := found
    rw [List.lookup_cons] at here
    split at here
    · cases here
      exact Value.atomWithin trivial
    · cases here
  obtain ⟨_, _, kept⟩ := freshFramesAgree host 1 e [] m
  obtain ⟨left, transparent⟩ := kept keeps
  have done : alone.1 = .ok .nil := rfl
  refine ⟨keeps, sees, uses, usesNames, (transparent _ sees uses usesNames).1.trans done, done, ?_, rfl⟩
  rw [left]
  rfl

end DynLisp
