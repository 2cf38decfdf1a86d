import DynLisp.Proofs.Frames
import DynLisp.Proofs.Reprint

/-! The text of a lambda is that of a list, a call of `lambda`, and so it is read as one form. To
evaluate the form gives the lambda again, wherever the name `lambda` means the library's. -/

namespace DynLisp

open Evaluator Run Form

theorem intercalateBlank (s : String) (ss : List String) :
    " ".intercalate (s :: ss) = s ++ String.join (ss.map (" " ++ ·)) := by
  induction ss generalizing s with
  | nil => simp
  | cons t ss ih =>
    rw [String.intercalate_cons_cons, ih, List.map_cons, String.join_cons]
    simp only [String.append_assoc]

namespace Value

/-- The form that makes a lambda, by the name that the library has for it. -/
def lambdaCall (params : List String) (body : List Value) : Value :=
  .list (.symbol "lambda" :: .list (params.map .symbol) :: body)

theorem sourcesSymbols (params : List String) : sources (params.map .symbol) = params := by
  rw [sourcesMap, List.map_map]
  exact List.map_id' params

theorem lambdaSource (params : List String) (body : List Value) :
    (lambda params body).source = (lambdaCall params body).source := by
  have opening : "(lambda (" = "(" ++ "lambda" ++ " " ++ "(" := by decide
  rw [lambdaCall, source, source, sources, sources, intercalateBlank, source, source, sourcesSymbols,
    List.map_cons, String.join_cons, lambdaText, opening]
  simp only [String.append_assoc]

theorem sameSymbol {w : Value} {name : String} (equal : w.same (.symbol name) = true) :
    w = .symbol name := by
  cases w with
  | symbol other => simpa [same] using equal
  | _ => cases equal

theorem sameList {w : Value} {items : List Value} (equal : w.same (.list items) = true) :
    ∃ ws, w = .list ws ∧ sameAll ws items = true := by
  cases w with
  | list ws => exact ⟨ws, rfl, equal⟩
  | _ => cases equal

theorem sameSymbols {ws : List Value} {names : List String}
    (equal : sameAll ws (names.map .symbol) = true) : ws = names.map .symbol := by
  rw [sameAllPairs, List.forall₂_map_right_iff] at equal
  induction equal with
  | nil => rfl
  | cons first _ ih => rw [List.map_cons, sameSymbol first, ih]

theorem sameLambdaCall {w : Value} {params : List String} {body : List Value}
    (equal : w.same (lambdaCall params body) = true) :
    ∃ forms, w = lambdaCall params forms ∧ sameAll forms body = true := by
  obtain ⟨ws, rfl, items⟩ := sameList equal
  rw [sameAllPairs] at items
  obtain ⟨head, _, first, tail, rfl⟩ := List.forall₂_cons_right_iff.1 items
  obtain ⟨names, forms, second, rest, rfl⟩ := List.forall₂_cons_right_iff.1 tail
  obtain ⟨_, rfl, symbols⟩ := sameList second
  rw [sameSymbol first, sameSymbols symbols]
  exact ⟨forms, rfl, (sameAllPairs _ _).2 rest⟩

theorem lambdaCallReadable {params : List String} {body : List Value}
    (names : ∀ p ∈ params, (symbol p).Readable) (forms : ∀ v ∈ body, v.Readable) :
    (lambdaCall params body).Readable := by
  have word : lex "lambda" = [⟨.symbol, "lambda"⟩] := by decide +kernel
  have signature : (list (params.map .symbol)).Readable := .list (List.forall_mem_map.2 names)
  exact .list (List.forall_mem_cons.2 ⟨.symbol (.inl rfl) word,
    List.forall_mem_cons.2 ⟨signature, forms⟩⟩)

theorem lambdaCallRereads {params : List String} {body : List Value}
    (names : ∀ p ∈ params, (symbol p).Readable) (forms : ∀ v ∈ body, v.Readable) :
    ∃ again, parse (lambda params body).source = .ok [lambdaCall params again] ∧
      sameAll again body = true := by
  have readable : ∀ v ∈ [lambdaCall params body], v.Readable :=
    List.forall_mem_singleton.2 (lambdaCallReadable names forms)
  obtain ⟨ws, read, equal⟩ := Readable.rereads (List.cons_ne_nil _ _) readable
  rw [sameAllPairs] at equal
  obtain ⟨w, _, first, rest, rfl⟩ := List.forall₂_cons_right_iff.1 equal
  obtain rfl := List.forall₂_nil_right_iff.1 rest
  obtain ⟨again, rfl, bodies⟩ := sameLambdaCall first
  rw [sources, sources, String.intercalate_singleton] at read
  exact ⟨again, by rwa [lambdaSource], bodies⟩

/-- The text of a lambda is one form, and evaluates to a lambda equal to it where the name `lambda` is
the library's; nothing else is changed by the evaluation. -/
theorem lambdaTextEvaluates {params : List String} {body : List Value}
    (names : ∀ p ∈ params, (symbol p).Readable) (forms : ∀ v ∈ body, v.Readable) :
    ∃ e again, parse (lambda params body).source = .ok [e] ∧
      (lambda params again).same (lambda params body) = true ∧
      ∀ host n m, m.stack.lookup? "lambda" = some (Library.named "lambda") →
        ((atDepth host (n + 2)).eval e).exec m = (.ok (.lambda params again), m) := by
  obtain ⟨again, read, bodies⟩ := lambdaCallRereads names forms
  refine ⟨_, again, read, by simpa [same] using bodies, fun host n m bound => ?_⟩
  exact (evalNamedCall host n bound _).trans
    (congrArg (·.exec m) (evalLambdaForm host n params again))

theorem quotingLambdaEvaluates :
    let l : Value := .lambda ["x", "->"] [.list [.symbol "x", .quote (.list [.text "\n"])]]
    let m : Machine := ⟨⟨[], Library.globals⟩, .ofText "" .newline, .empty, [], 0⟩
    ∃ e v, parse l.source = .ok [e] ∧
      ((Host.bare 400 400).evaluator.eval e).exec m = (.ok v, m) ∧ v.same l = true := by
  intro l m
  have letter : (symbol "x").Readable := .symbol (.inl rfl) (by decide +kernel)
  have arrow : (symbol "->").Readable := .symbol (.inr rfl) (by decide +kernel)
  have quoted : (quote (list [text "\n"])).Readable :=
    .quote (.list (List.forall_mem_singleton.2 (.text _)))
  have names : ∀ p ∈ ["x", "->"], (symbol p).Readable :=
    List.forall_mem_cons.2 ⟨letter, List.forall_mem_singleton.2 arrow⟩
  have form : (list [symbol "x", quote (list [text "\n"])]).Readable :=
    .list (List.forall_mem_cons.2 ⟨letter, List.forall_mem_singleton.2 quoted⟩)
  obtain ⟨e, again, read, equal, evaluates⟩ :=
    lambdaTextEvaluates names (List.forall_mem_singleton.2 form)
  exact ⟨e, _, read, evaluates _ 398 m rfl, equal⟩

end Value

end DynLisp
