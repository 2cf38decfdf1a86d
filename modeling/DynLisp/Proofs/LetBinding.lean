import DynLisp.Proofs.Frames

/-! Sequential bindings and nested applications. The one makes all bindings in one
scope, the other one scope for each of them, with the next application as its body;
what is bound earlier is visible later on either side. The depths differ: each
application is one evaluation more, and only the fault of the limit can tell. -/

namespace DynLisp

open Evaluator Run
open ScopeStack (Reach)

namespace Run

/-- One result, and the same use of the streams. -/
structure Alike {α : Type} (ended ended' : Except Fault α × Machine) : Prop where
  result : ended.1 = ended'.1
  input : ended.2.input = ended'.2.input
  output : ended.2.output = ended'.2.output

/-- From machines that show the same names the second run ends like the first one, so long as that
stays within its depth and the host functions are of `F`. -/
def Echoes {α : Type} (F : HostFunction → Prop) (r r' : Run α) : Prop :=
  ∀ m m', m.Corresponds (.byNames F (· = .host .tooDeep)) m' →
    (r.exec m).1 ≠ .error (.host .tooDeep) → Alike (r.exec m) (r'.exec m')

variable {F : HostFunction → Prop} {α β : Type} {Q : α → Prop} {reach : Reach} {r r' : Run α}

theorem Follows.echoes
    (h : r.Follows (.byNames F (· = .host .tooDeep)) reach Q r') : r.Echoes F r' := by
  intro m m' same finished
  rcases h m m' same with ⟨_, failed, rfl, _⟩ | agree
  · exact absurd failed finished
  · exact ⟨agree.result, agree.input, agree.output⟩

theorem Follows.bindEchoes {next next' : α → Run β}
    (first : r.Follows (.byNames F (· = .host .tooDeep)) .inner Q r')
    (rest : ∀ a, Q a → (next a).Echoes F (next' a)) : (r >>= next).Echoes F (r' >>= next') := by
  intro m m' same finished
  have begun := first m m' same
  rcases h : r.exec m with ⟨result, after⟩
  rcases h' : r'.exec m' with ⟨result', after'⟩
  rw [h, h'] at begun
  rcases begun with ⟨_, rfl, rfl, _⟩ | agree
  · rw [execBindError h] at finished
    exact absurd rfl finished
  cases agree.result
  cases result with
  | error fault =>
    rw [execBindError h, execBindError h']
    exact ⟨rfl, agree.input, agree.output⟩
  | ok a =>
    rw [execBindOk h] at finished ⊢
    rw [execBindOk h']
    exact rest a agree.yields after after' (agree.corresponds same) finished

theorem Echoes.scopeRight (h : r.Echoes F r') (stays : r'.Local) : r.Echoes F (inScope r') := by
  intro m m' same finished
  rw [execScoped stays]
  have shown := same.restack (fun _ => rfl) (ScopeStack.lookupEnter m'.stack)
  obtain ⟨result, input, output⟩ := h m _ shown finished
  exact ⟨result, input, output⟩

theorem Echoes.scopeLeft (h : r.Echoes F r') (stays : r.Local) : (inScope r).Echoes F r' := by
  intro m m' same finished
  rw [execScoped stays] at finished ⊢
  have shown := same.restack (ScopeStack.lookupEnter m.stack) fun _ => rfl
  obtain ⟨result, input, output⟩ := h _ m' shown finished
  exact ⟨result, input, output⟩

theorem exhaustedEchoes (exhausted : ∀ m, (r.exec m).1 = .error (.host .tooDeep)) : r.Echoes F r' :=
  fun m _ _ finished => absurd (exhausted m) finished

end Run

namespace Value

def pairForm (p : String × Value) : Value := .list [.symbol p.1, p.2]

def letForm (pairs : List (String × Value)) (body : List Value) : Value :=
  .list (Library.named "let" :: .list (pairs.map pairForm) :: body)

def application (x : String) (e : Value) (body : List Value) : Value :=
  .list [lambdaForm [x] body, e]

def nested : List (String × Value) → List Value → List Value
  | [], body => body
  | (x, e) :: rest, body => [application x e (nested rest body)]

end Value

/-- What both forms do for each of the bindings. -/
def Evaluator.binding (ev : Evaluator) (x : String) (e : Value) (rest : Run Value) : Run Value := do
  let v ← ev.eval e
  Run.onStack (·.bindLocal x v)
  rest

theorem evalLet (host : Host) (n : Nat) (pairs : List (String × Value)) (e : Value) (es : List Value) :
    (atDepth host (n + 2)).eval (Value.letForm pairs (e :: es)) =
      inScope (Library.letIn (atDepth host (n + 1)) (.list (pairs.map Value.pairForm) :: e :: es)) :=
  rfl

theorem letInBinding (ev : Evaluator) (x : String) (e : Value) (items body : List Value) :
    Library.letIn ev (.list (Value.pairForm (x, e) :: items) :: body) =
      ev.binding x e (Library.letIn ev (.list items :: body)) := by
  have one : Library.bindOne ev (Value.pairForm (x, e)) =
    (do let v ← ev.eval e; Run.onStack (·.bindLocal x v)) := rfl
  show (do
    (do Library.bindOne ev (Value.pairForm (x, e)); items.forM (Library.bindOne ev))
    ev.evalBody body) = _
  rw [one]
  simp only [bind_assoc]
  rfl

theorem evalApplication (host : Host) (n : Nat) (x : String) (e : Value) (body : List Value) :
    (atDepth host (n + 3)).eval (Value.application x e body) =
      inScope ((atDepth host (n + 2)).binding x e ((atDepth host (n + 2)).evalBody body)) := by
  have fit : [e].length = [x].length := rfl
  refine (evalLambdaCall host n fit body).trans (congrArg inScope ?_)
  rw [List.mapM_cons, List.mapM_nil, bind_assoc]
  rfl

theorem localBinding {ev : Evaluator} (h : ev.Local) (x : String) (e : Value) {rest : Run Value}
    (stays : rest.Local) : (ev.binding x e rest).Local :=
  localBind (h.eval e) fun v => localBind (localBindLocal x v) fun _ => stays

section

variable {host : Host} {F : HostFunction → Prop} (sees : host.SeesNames F (· = .host .tooDeep))
include sees

theorem bindingEchoes {n k : Nat} (deeper : n ≤ k) (x : String) {e : Value} (uses : e.UsesOnly F)
    {rest rest' : Run Value} (h : rest.Echoes F rest') :
    ((atDepth host n).binding x e rest).Echoes F ((atDepth host k).binding x e rest') :=
  ((followsDeeper sees rfl deeper).eval e uses).bindEchoes fun _ within =>
    (Run.Follows.bindLocal x within).bindEchoes fun _ _ => h

theorem evalBodyEchoes {n k : Nat} (deeper : n ≤ k) {body : List Value}
    (uses : ∀ v ∈ body, v.UsesOnly F) :
    ((atDepth host n).evalBody body).Echoes F ((atDepth host k).evalBody body) :=
  ((followsDeeper sees rfl deeper).evalBody uses).echoes

variable (keeps : host.KeepsScopes) {pairs : List (String × Value)} {body : List Value}
  (uses : ∀ p ∈ pairs, p.2.UsesOnly F) (usesBody : ∀ v ∈ body, v.UsesOnly F)
include keeps uses usesBody

theorem nestedEchoesLet {n k : Nat} (deeper : n + 2 + pairs.length ≤ k) :
    (Library.letIn (atDepth host (n + 1)) (.list (pairs.map Value.pairForm) :: body)).Echoes F
      ((atDepth host k).evalBody (Value.nested pairs body)) := by
  induction pairs generalizing k with
  | nil => exact evalBodyEchoes sees (by simp at deeper; omega) usesBody
  | cons p pairs ih =>
    obtain ⟨x, e⟩ := p
    obtain ⟨here, there⟩ := List.forall_mem_cons.1 uses
    rw [List.length_cons] at deeper
    obtain ⟨k, rfl⟩ : ∃ j, k = j + 3 := ⟨k - 3, by omega⟩
    have deep := localAtDepth keeps (k + 2)
    rw [List.map_cons, letInBinding, Value.nested, evalBodySingle, evalApplication]
    exact (bindingEchoes sees (by omega) x here (ih there (by omega))).scopeRight
      (localBinding deep x e (Library.localEvalBody deep _))

theorem letEchoesNested {n k : Nat} (deeper : n ≤ k) :
    ((atDepth host n).evalBody (Value.nested pairs body)).Echoes F
      (Library.letIn (atDepth host k) (.list (pairs.map Value.pairForm) :: body)) := by
  induction pairs generalizing n with
  | nil => exact evalBodyEchoes sees deeper usesBody
  | cons p pairs ih =>
    obtain ⟨x, e⟩ := p
    obtain ⟨here, there⟩ := List.forall_mem_cons.1 uses
    rw [List.map_cons, letInBinding, Value.nested, evalBodySingle]
    match n with
    | 0 | 1 | 2 => exact exhaustedEchoes fun _ => rfl
    | n + 3 =>
      have deep := localAtDepth keeps (n + 2)
      rw [evalApplication]
      exact (bindingEchoes sees (by omega) x here (ih there (by omega))).scopeLeft
        (localBinding deep x e (Library.localEvalBody deep _))

end

section

variable {host : Host} (keeps : host.KeepsScopes)
include keeps

theorem letKeepsStack (d : Nat) (pairs : List (String × Value)) (e : Value) (es : List Value)
    (m : Machine) :
    (((atDepth host d).eval (Value.letForm pairs (e :: es))).exec m).2.stack = m.stack := by
  match d with
  | 0 | 1 => rfl
  | n + 2 => rw [evalLet, execScoped (Library.localLetIn _ (localAtDepth keeps (n + 1)))]

theorem applicationKeepsStack (d : Nat) (x : String) (e : Value) (body : List Value) (m : Machine) :
    (((atDepth host d).eval (Value.application x e body)).exec m).2.stack = m.stack := by
  match d with
  | 0 | 1 | 2 => rfl
  | n + 3 =>
    have deep := localAtDepth keeps (n + 2)
    rw [evalApplication, execScoped (localBinding deep x e (Library.localEvalBody deep body))]

end

/-- Bindings in sequence are nested applications of lambdas, which need one more evaluation of depth
for each of the bindings at most. -/
theorem letIsApplication {host : Host} {F : HostFunction → Prop} (keeps : host.KeepsScopes)
    (sees : host.SeesNames F (· = .host .tooDeep)) (x : String) (e : Value)
    (bindings : List (String × Value)) (first : Value) (body : List Value) (m : Machine)
    (uses : (Value.letForm ((x, e) :: bindings) (first :: body)).UsesOnly F)
    (usesNames : m.stack.UsesOnly F) :
    let bound (d : Nat) :=
      ((atDepth host d).eval (Value.letForm ((x, e) :: bindings) (first :: body))).exec m
    let applied (d : Nat) :=
      ((atDepth host d).eval (Value.application x e (Value.nested bindings (first :: body)))).exec m
    (∀ d, (bound d).2.stack = m.stack ∧ (applied d).2.stack = m.stack) ∧
    ∀ d k, (d + bindings.length < k → (bound d).1 ≠ .error (.host .tooDeep) →
        Alike (bound d) (applied k)) ∧
      (d < k → (applied d).1 ≠ .error (.host .tooDeep) → Alike (applied d) (bound k)) := by
  intro bound applied
  obtain ⟨_, forms⟩ := List.forall_mem_cons.1 (Value.listUsesOnly.1 uses)
  obtain ⟨pairs, usesBody⟩ := List.forall_mem_cons.1 forms
  have usesPairs : ∀ p ∈ (x, e) :: bindings, p.2.UsesOnly F := fun p member =>
    Value.listUsesOnly.1 (Value.listUsesOnly.1 pairs _ (List.mem_map_of_mem member)) _
      (.tail _ (.head _))
  have same : m.Corresponds (.byNames F (· = .host .tooDeep)) m := namesCorrespond usesNames
  have applies (d : Nat) : applied d =
      ((atDepth host d).evalBody (Value.nested ((x, e) :: bindings) (first :: body))).exec m := by
    rw [Value.nested, evalBodySingle]
  refine ⟨fun d => ⟨letKeepsStack keeps d _ first body m, applicationKeepsStack keeps d x e _ m⟩,
    fun d k => ⟨?_, ?_⟩⟩
  · intro deeper finished
    match d with
    | 0 | 1 => exact absurd rfl finished
    | n + 2 =>
      have within : n + 2 + ((x, e) :: bindings).length ≤ k := by rw [List.length_cons]; omega
      have echoes := (nestedEchoesLet sees keeps usesPairs usesBody within).scopeLeft
        (Library.localLetIn _ (localAtDepth keeps (n + 1)))
      rw [applies]
      exact echoes m m same finished
  · intro deeper finished
    match d with
    | 0 => exact absurd rfl finished
    | d + 1 =>
      obtain ⟨k, rfl⟩ : ∃ j, k = j + 2 := ⟨k - 2, by omega⟩
      have echoes := (letEchoesNested sees keeps usesPairs usesBody (Nat.le_of_lt_succ deeper)).scopeRight
        (Library.localLetIn _ (localAtDepth keeps (k + 1)))
      rw [applies] at finished ⊢
      exact echoes m m same finished

/-- The second binding sees the first one of the same name, and hides it. -/
theorem rebindingApplied :
    let host := Host.callBack 400 400
    let twice : Value := .list [.builtin ⟨"list", .listOf, .any, false⟩, .symbol "x", .symbol "x"]
    let m : Machine := ⟨⟨[], ⟨[]⟩⟩, .ofText "" .newline, .empty, [], 0⟩
    let form := Value.letForm [("x", .bool true), ("x", twice)] [.symbol "x"]
    let bound := ((atDepth host 4).eval form).exec m
    let applied := ((atDepth host 6).eval
      (Value.application "x" (.bool true) (Value.nested [("x", twice)] [.symbol "x"]))).exec m
    host.KeepsScopes ∧ host.SeesNames (fun _ => True) (· = .host .tooDeep) ∧
      (form.UsesOnly fun _ => True) ∧ (m.stack.UsesOnly fun _ => True) ∧
      bound.1 = .ok (.list [.bool true, .bool true]) ∧ Alike bound applied := by
  intro host twice m form bound applied
  have keeps : host.KeepsScopes := Host.callBackKeepsScopes 400 400
  have sees : host.SeesNames (fun _ => True) (· = .host .tooDeep) := Host.callBackFollows 400 400
  have uses : form.UsesOnly fun _ => True := by
    have named : Library.named "let" = .builtin ⟨"let", .letIn, .atLeast 2, true⟩ := rfl
    simp [form, twice, Value.letForm, Value.pairForm, named]
  have usesNames : m.stack.UsesOnly fun _ => True := by
    intro name v found
    cases found
  have done : bound.1 = .ok (.list [.bool true, .bool true]) := rfl
  have finished : bound.1 ≠ .error (.host .tooDeep) := by
    intro failed
    cases done.symm.trans failed
  have both := letIsApplication keeps sees "x" (.bool true) [("x", twice)] (.symbol "x") [] m uses
    usesNames
  exact ⟨keeps, sees, uses, usesNames, done, (both.2 4 6).1 (by decide) finished⟩

end DynLisp
