import DynLisp.Proofs.Grammar
import DynLisp.Proofs.ScopeDiscipline
import DynLisp.Session
import Mathlib.Data.List.Induction

/-! A source is read as a whole before any of it is evaluated, and then evaluated form
by form, each at the global scope. The first form that fails is the last to run, and
leaves the scopes as the forms before it did. -/

namespace DynLisp

open Evaluator

/-- The forms give values one after the other; the value of all is that of the last. -/
inductive Evaluates (host : Host) (m : Machine) : List Value → Value → Machine → Prop where
  | nil : Evaluates host m [] .nil m
  | snoc {forms u before f v after} (done : Evaluates host m forms u before)
      (given : (host.evaluator.eval f).exec before = (.ok v, after)) :
      Evaluates host m (forms ++ [f]) v after

/-- One of the forms fails, after those before it gave values. -/
inductive FailsAt (host : Host) (m : Machine) : List Value → Fault → Machine → Machine → Prop where
  | first {done v before f fault failed} (given : Evaluates host m done v before)
      (raised : (host.evaluator.eval f).exec before = (.error fault, failed)) (rest : List Value) :
      FailsAt host m (done ++ f :: rest) fault before failed

/-- With the record that a session makes of a failure. -/
def Machine.noting (m : Machine) : Fault → Machine
  | .lisp e => { m with log := m.log ++ [.formFailed e.message] }
  | .host _ => m

theorem Machine.notingStack (m : Machine) (fault : Fault) : (m.noting fault).stack = m.stack := by
  cases fault <;> rfl

section

variable {host : Host} {m before after failed : Machine} {f v : Value} {forms : List Value}
  {fault : Fault}

section

variable (keeps : host.KeepsScopes)
include keeps

/-- Whatever the depth, a failure leaves the scopes as they were; a value comes with one binding at
most. -/
theorem evaluatorScoped (f : Value) (m : Machine) :
    let ended := (host.evaluator.eval f).exec m
    ended.2.stack = m.stack ∨
      ended.1 = .ok .nil ∧ ∃ name v, ended.2.stack = m.stack.bindLocal name v := by
  unfold Host.evaluator
  cases host.depth with
  | zero => exact .inl rfl
  | succ n =>
    rcases deepenScoped (localAtDepth keeps n) f m with ⟨_, same, _⟩ | ⟨name, v, _, done, same⟩
    · exact .inl same
    · exact .inr ⟨done, name, v, same⟩

theorem failureKeepsStack (raised : (host.evaluator.eval f).exec before = (.error fault, failed)) :
    failed.stack = before.stack := by
  have ends := evaluatorScoped keeps f before
  rw [raised] at ends
  exact ends.resolve_right fun ⟨done, _⟩ => nomatch done

theorem evalKeepsGlobal (given : (host.evaluator.eval f).exec before = (.ok v, after))
    (outermost : before.stack.entered = []) : after.stack.entered = [] := by
  have ends := evaluatorScoped keeps f before
  rw [given] at ends
  rcases ends with same | ⟨_, name, w, same⟩
  · rwa [show after.stack = before.stack from same]
  · -- With no scope entered, the binding goes to the global one.
    rw [show after.stack = before.stack.bindLocal name w from same, ScopeStack.bindLocal, outermost]
    exact outermost

theorem Evaluates.keepsGlobal (h : Evaluates host m forms v after)
    (outermost : m.stack.entered = []) : after.stack.entered = [] := by
  induction h with
  | nil => exact outermost
  | snoc _ given ih => exact evalKeepsGlobal keeps given ih

end

theorem depthOne (s : ScopeStack) : s.depth = 1 ↔ s.entered = [] := by
  rw [ScopeStack.depth, Nat.add_eq_right, List.length_eq_zero_iff]

theorem topLevelGives (given : (host.evaluator.eval f).exec before = (.ok v, after)) :
    (Run.topLevel host f).exec before = (.ok v, after) := by
  rw [Run.topLevel, Run.execMk, given]

theorem topLevelRaises (raised : (host.evaluator.eval f).exec before = (.error fault, failed)) :
    (Run.topLevel host f).exec before = (.error fault, failed.noting fault) := by
  rw [Run.topLevel, Run.execMk, raised]
  cases fault <;> rfl

theorem Evaluates.runs (h : Evaluates host m forms v after) :
    (forms.foldlM (fun _ form => Run.topLevel host form) .nil).exec m = (.ok v, after) := by
  induction h with
  | nil => rfl
  | snoc _ given ih =>
    rw [List.foldlM_append, Run.execBindOk ih, List.foldlM_cons, Run.execBindOk (topLevelGives given)]
    rfl

theorem FailsAt.runs (h : FailsAt host m forms fault before failed) :
    (forms.foldlM (fun _ form => Run.topLevel host form) .nil).exec m =
      (.error fault, failed.noting fault) := by
  obtain ⟨given, raised, rest⟩ := h
  rw [List.foldlM_append, Run.execBindOk given.runs, List.foldlM_cons,
    Run.execBindError (topLevelRaises raised)]

theorem formsEnd (host : Host) (m : Machine) (forms : List Value) :
    (∃ v after, Evaluates host m forms v after) ∨
      ∃ fault before failed, FailsAt host m forms fault before failed := by
  -- From the front to the last form, which is reached only if no form before it fails.
  induction forms using List.reverseRecOn with
  | nil => exact .inl ⟨_, _, .nil⟩
  | append_singleton forms f ih =>
    rcases ih with ⟨u, before, done⟩ | ⟨fault, before, failed, given, raised, rest⟩
    · rcases given : (host.evaluator.eval f).exec before with ⟨fault | v, after⟩
      · exact .inr ⟨fault, before, after, .first done given []⟩
      · exact .inl ⟨v, after, .snoc done given⟩
    · rw [List.append_assoc]
      exact .inr ⟨fault, before, failed, .first given raised (rest ++ [f])⟩

end

theorem Form.parseSome {source : String} {forms : List Value} (read : parse source = .ok forms) :
    forms ≠ [] := by
  obtain ⟨tokens, spelled⟩ := (parseAccepts source forms).1 read
  rintro rfl
  generalize lex source = ts at tokens spelled
  cases spelled
  exact tokens rfl

theorem Session.evalText (s : Session) (text : String) :
    s.eval (.text text) = s.run (Run.ofExcept (Form.parse text) >>= fun forms =>
      forms.foldlM (fun _ form => Run.topLevel s.host form) .nil) := rfl

theorem Session.evalParsed {s : Session} {text : String} {forms : List Value}
    (read : Form.parse text = .ok forms) : s.eval (.text text) =
      s.run (forms.foldlM (fun _ form => Run.topLevel s.host form) .nil) := by
  rw [evalText, read]
  rfl

/-- A source that cannot be read changes nothing. Of one that can, the forms are evaluated up to the
first that fails, which leaves the scopes as they were before it and the rest of them unevaluated. -/
theorem Session.evalAtomic (s : Session) (text : String) (keeps : s.host.KeepsScopes)
    (outermost : s.machine.stack.depth = 1) :
    let ended := s.eval (.text text)
    (∀ fault, Form.parse text = .error fault → ended = (.error fault, s)) ∧
    (∀ forms, Form.parse text = .ok forms →
      (∀ fault before failed, FailsAt s.host s.machine forms fault before failed →
        ended = (.error fault, { s with machine := failed.noting fault }) ∧
          ended.2.machine.stack = before.stack ∧ ended.2.machine.stack.depth = 1) ∧
      (∀ v after, Evaluates s.host s.machine forms v after →
        forms ≠ [] ∧ ended = (.ok v, { s with machine := after }) ∧ after.stack.depth = 1) ∧
      ((∃ v after, Evaluates s.host s.machine forms v after) ∨
        ∃ fault before failed, FailsAt s.host s.machine forms fault before failed)) := by
  intro ended
  rw [depthOne] at outermost
  refine ⟨fun fault unread => ?_, fun forms read => ⟨?_, ?_, formsEnd s.host s.machine forms⟩⟩
  · simp only [ended, evalText, unread]
    rfl
  · intro fault before failed fails
    have answer : ended = (.error fault, { s with machine := failed.noting fault }) := by
      simp only [ended, evalParsed read, run, fails.runs]
    obtain ⟨given, raised, rest⟩ := fails
    have kept : ended.2.machine.stack = before.stack := by
      rw [answer]
      exact (failed.notingStack fault).trans (failureKeepsStack keeps raised)
    exact ⟨answer, kept, by rw [kept, depthOne]; exact given.keepsGlobal keeps outermost⟩
  · intro v after given
    refine ⟨Form.parseSome read, ?_, (depthOne _).2 (given.keepsGlobal keeps outermost)⟩
    simp only [ended, evalParsed read, run, given.runs]

theorem Session.definitionBeforeFailure :
    let s := fresh (.bare 400 400) ⟨[]⟩ (.ofText "" .newline) .empty
    let ended := s.eval (.text "(define x 'a) b (define x 'c)")
    s.machine.stack.depth = 1 ∧ ended.1 = .error (.lisp (.undeclared "b")) ∧
      ended.2.machine.stack.globals.get? "x" = some (.symbol "a") ∧
      ended.2.machine.stack.depth = 1 := by
  intro s ended
  let binding (name : String) : Value :=
    .list [.symbol "define", .symbol "x", .quote (.symbol name)]
  let before := ((s.host.evaluator.eval (binding "a")).exec s.machine).2
  have tokens : lex "(define x 'a) b (define x 'c)" = [⟨.openList, "("⟩, ⟨.symbol, "define"⟩,
      ⟨.symbol, "x"⟩, ⟨.quote, "'"⟩, ⟨.symbol, "a"⟩, ⟨.closeList, ")"⟩, ⟨.symbol, "b"⟩,
      ⟨.openList, "("⟩, ⟨.symbol, "define"⟩, ⟨.symbol, "x"⟩, ⟨.quote, "'"⟩, ⟨.symbol, "c"⟩,
      ⟨.closeList, ")"⟩] := by decide +kernel
  have read : Form.parse "(define x 'a) b (define x 'c)" =
      .ok ([binding "a"] ++ .symbol "b" :: [binding "c"]) := by
    rw [Form.parseLex, tokens]
    rfl
  have defined : Evaluates s.host s.machine [binding "a"] .nil before := .snoc .nil rfl
  have bound : before.stack.globals.get? "x" = some (.symbol "a") := rfl
  have missing : (s.host.evaluator.eval (.symbol "b")).exec before =
      (.error (.lisp (.undeclared "b")), before) := rfl
  obtain ⟨_, whole⟩ := evalAtomic s "(define x 'a) b (define x 'c)"
    (Host.bareKeepsScopes 400 400) rfl
  obtain ⟨answer, kept, depth⟩ :=
    (whole _ read).1 _ _ _ (.first defined missing [binding "c"])
  exact ⟨rfl, congrArg Prod.fst answer, kept ▸ bound, depth⟩

end DynLisp
