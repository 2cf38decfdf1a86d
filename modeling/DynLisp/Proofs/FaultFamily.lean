import DynLisp.Proofs.Atomicity
import DynLisp.Proofs.Calls
import DynLisp.Proofs.Confinement

/-! The faults that sources can meet in a session which holds nothing but the library
and what earlier sources made of it, and whose streams fail only as the system does. They
are errors of the language, an exit, too deep a recursion, and three faults of the host's
arithmetic that no library function translates.
What is read holds nothing opaque, so the scopes of such a session never hold any but the
builtins of the library, and these ask for as many arguments as they take. -/

namespace DynLisp

open Value (Within atomWithin withinList withinQuote withinBuiltin)

/-- An error of the language, or a fault that is meant to pass through. -/
def Fault.Foreseen : Fault → Prop
  | .lisp _ | .host (.exit _) | .host .tooDeep => True
  | _ => False

/-- A sum that the host refuses, or an exit with a code that is not finite. -/
def Fault.Untranslated : Fault → Prop
  | .host (.sum _) | .host .integerOfInfinity | .host .integerOfNaN => True
  | _ => False

def Value.IsStandard (v : Value) : Prop := ∃ f ∈ Library.builtins, v = .builtin f

/-- Sources are evaluated one after another, whether they fail or not. -/
inductive Session.Reached : Session → Prop where
  | fresh (host : Host) (settings : Settings) (input : InputStream) (output : OutputStream)
      (works : ∀ e, ¬ (fresh host settings input output).machine.Raises e) :
      Reached (fresh host settings input output)
  | eval {s : Session} (before : Reached s) (code : Source) : Reached (s.eval code).2

/-- After the evaluation of these forms, those that fail included. -/
def Machine.afterForms (host : Host) (m : Machine) (forms : List Value) : Machine :=
  forms.foldl (fun m form => ((Run.topLevel host form).exec m).2) m

section Reader

variable {P : Value → Prop}

theorem Token.atomIsAtom {t : Token} {v : Value} (read : t.atom = .ok v) : v.IsAtom := by
  obtain ⟨kind, text⟩ := t
  cases kind with
  | hex =>
    cases numeral : Token.hexNumber text with
    | error fault => simp only [Token.atom, numeral] at read; cases read
    | ok x => simp only [Token.atom, numeral] at read; cases read; trivial
  | number =>
    cases numeral : Number.ofText? text with
    | none => simp only [Token.atom, numeral] at read; cases read
    | some x => simp only [Token.atom, numeral] at read; cases read; trivial
  | _ => cases read; trivial

namespace Form

mutual

theorem Spells.within {ts : List Token} {v : Value} : Spells ts v → v.Within P
  | .atom _ read => atomWithin (Token.atomIsAtom read)
  | .list _ items _ => withinList.2 items.within
  | .brace _ items _ => withinQuote.2 (withinList.2 items.within)
  | .quote _ payload => withinQuote.2 payload.within

theorem SpellsAll.within {ts : List Token} {vs : List Value} :
    SpellsAll ts vs → ∀ v ∈ vs, v.Within P
  | .nil => nofun
  | .cons first rest => List.forall_mem_cons.2 ⟨first.within, rest.within⟩

end

theorem parsedWithin {source : String} {forms : List Value} (read : parse source = .ok forms) :
    ∀ f ∈ forms, f.Within P :=
  ((parseAccepts source forms).1 read).2.within

end Form

end Reader

section Bound

/-- Only opaque values in `P` are bound, and the streams raise only errors in `S`. -/
structure Machine.Keeps (P : Value → Prop) (S : HostError → Prop) (m : Machine) : Prop where
  bound : m.stack.Within P
  raises : ∀ e, m.Raises e → S e

variable {P : Value → Prop} {S : HostError → Prop} {host : Host} {m : Machine}

theorem Machine.Keeps.noting (kept : m.Keeps P S) (fault : Fault) : (m.noting fault).Keeps P S := by
  cases fault <;> exact ⟨kept.bound, kept.raises⟩

variable (follows : host.Follows (.inside P S) host)
include follows

theorem topLevelWithin {f : Value} (form : f.Within P) (kept : m.Keeps P S) :
    Yields (Fault.Permitted (.inside P S)) (Within P) ((Run.topLevel host f).exec m).1 ∧
      ((Run.topLevel host f).exec m).2.Keeps P S := by
  have ends := evalWithin follows host.depth form kept.bound kept.raises
  rcases given : (host.evaluator.eval f).exec m with ⟨fault | v, after⟩
  · rw [topLevelRaises given]
    rw [Host.evaluator] at given
    rw [given] at ends
    have after : after.Keeps P S := ⟨ends.2.1, ends.2.2⟩
    exact ⟨ends.1, after.noting fault⟩
  · rw [topLevelGives given]
    rw [Host.evaluator] at given
    rw [given] at ends
    exact ⟨ends.1, ends.2.1, ends.2.2⟩

theorem afterFormsKeeps {forms : List Value} (within : ∀ f ∈ forms, f.Within P)
    (kept : m.Keeps P S) : (m.afterForms host forms).Keeps P S := by
  induction forms generalizing m with
  | nil => exact kept
  | cons f rest ih =>
    obtain ⟨here, there⟩ := List.forall_mem_cons.1 within
    exact ih there (topLevelWithin follows here kept).2

theorem formsKeep {forms : List Value} (within : ∀ f ∈ forms, f.Within P) (kept : m.Keeps P S)
    (v : Value) :
    ((forms.foldlM (fun _ form => Run.topLevel host form) v).exec m).2.Keeps P S := by
  induction forms generalizing m v with
  | nil => exact kept
  | cons f rest ih =>
    obtain ⟨here, there⟩ := List.forall_mem_cons.1 within
    -- The rest runs only after a value, but the scopes are kept after a fault as well.
    have ends := (topLevelWithin follows here kept).2
    rw [List.foldlM_cons]
    rcases given : (Run.topLevel host f).exec m with ⟨fault | w, after⟩ <;> rw [given] at ends
    · rwa [Run.execBindError given]
    · rw [Run.execBindOk given]
      exact ih there ends w

theorem sourceKeeps (settings : Settings) (code : Source) (kept : m.Keeps P S) :
    ((Run.source host settings code).exec m).2.Keeps P S := by
  cases decoded : code.decode settings with
  | error fault =>
    rwa [Run.source, decoded, Run.execBindError (Run.execOfExcept _ m)]
  | ok text =>
    rw [Run.source, decoded, Run.execBindOk (Run.execOfExcept _ m)]
    cases read : Form.parse text with
    | error fault => rwa [Run.execBindError (Run.execOfExcept _ m)]
    | ok forms =>
      rw [Run.execBindOk (Run.execOfExcept _ m)]
      exact formsKeep follows (Form.parsedWithin read) kept .nil

end Bound

theorem globalsStandard : ScopeStack.Within Value.IsStandard ⟨[], Library.globals⟩ := by
  rintro v ⟨scope, member, name, bound⟩
  cases List.mem_singleton.1 member
  rcases List.mem_append.1 bound with constant | library
  · simp only [Library.constants, List.mem_cons, Prod.mk.injEq, List.not_mem_nil, or_false] at constant
    rcases constant with ⟨_, rfl⟩ | ⟨_, rfl⟩ | ⟨_, rfl⟩ <;> exact atomWithin trivial
  · obtain ⟨f, standard, same⟩ := List.mem_map.1 library
    cases same
    exact withinBuiltin.2 ⟨f, standard, rfl⟩

/-- No builtin of the library is a function of the host. -/
theorem Host.followsStandard (host : Host) (S : HostError → Prop) :
    host.Follows (.inside Value.IsStandard S) host where
  function := by
    rintro b f ⟨_, standard, ⟨⟩⟩ does
    exact absurd does (Library.standardPrimitive standard f)
  nesting := rfl

theorem Session.Reached.standard {s : Session} (reached : s.Reached) :
    s.machine.Keeps Value.IsStandard fun _ => False := by
  induction reached with
  | fresh host settings input output works => exact ⟨globalsStandard, works⟩
  | @eval s _ code ih =>
    exact sourceKeeps (s.host.followsStandard fun _ => False) s.settings code ih

theorem permittedStandard {fault : Fault}
    (permitted : fault.Permitted (.inside Value.IsStandard fun _ => False)) :
    fault.Foreseen ∨ fault.Untranslated := by
  cases permitted with
  | lisp | exit | tooDeep => exact .inl trivial
  | sum | integerOfInfinity | integerOfNaN => exact .inr trivial
  | raised none => exact none.elim
  | uninterned admitted =>
    obtain ⟨_, _, same⟩ := admitted
    cases same
  | shortage admitted unfit =>
    obtain ⟨f, standard, same⟩ := admitted
    cases same
    exact absurd (Library.standardFits standard) unfit
  | ofHost admitted does =>
    obtain ⟨f, standard, same⟩ := admitted
    cases same
    exact absurd does (Library.standardPrimitive standard _)

/-- Whatever sources have run before, a form of a source that fails raises an error of the language,
unless it exits, recurses too deeply, or has a sum or a code of exit that the host refuses. -/
theorem Session.evalFaults {s : Session} (reached : s.Reached) {text : String}
    {done rest : List Value} {f : Value} (read : Form.parse text = .ok (done ++ f :: rest)) :
    let ended := (Run.topLevel s.host f).exec (s.machine.afterForms s.host done)
    (∃ v, ended.1 = .ok v) ∨
      ∃ fault, ended.1 = .error fault ∧ (fault.Foreseen ∨ fault.Untranslated) := by
  intro ended
  obtain ⟨before, here⟩ := List.forall_mem_append.1 (Form.parsedWithin read)
  have follows := s.host.followsStandard fun _ => False
  have kept := afterFormsKeeps follows before reached.standard
  have ends : Yields _ _ ended.1 :=
    (topLevelWithin follows (List.forall_mem_cons.1 here).1 kept).1
  rcases ended with ⟨fault | v, after⟩
  · exact .inr ⟨fault, rfl, permittedStandard ends⟩
  · exact .inl ⟨v, rfl⟩

theorem Session.symbolNotCalled :
    let s := fresh (.bare 400 400) ⟨[]⟩ (.ofText "" .newline) .empty
    let definition : Value := .list [.symbol "define", .symbol "x", .quote (.symbol "a")]
    let ended := (Run.topLevel s.host (.list [.symbol "x"])).exec
      (s.machine.afterForms s.host [definition])
    Form.parse "(define x 'a) (x)" = .ok ([definition] ++ .list [.symbol "x"] :: []) ∧
      ∃ fault, ended.1 = .error fault ∧ (fault.Foreseen ∨ fault.Untranslated) := by
  intro s definition ended
  have tokens : lex "(define x 'a) (x)" = [⟨.openList, "("⟩, ⟨.symbol, "define"⟩, ⟨.symbol, "x"⟩,
      ⟨.quote, "'"⟩, ⟨.symbol, "a"⟩, ⟨.closeList, ")"⟩, ⟨.openList, "("⟩, ⟨.symbol, "x"⟩,
      ⟨.closeList, ")"⟩] := by decide +kernel
  have read : Form.parse "(define x 'a) (x)" = .ok ([definition] ++ .list [.symbol "x"] :: []) := by
    rw [Form.parseLex, tokens]
    rfl
  have failed : ended.1 = .error (.lisp (.notCallable (.symbol "a"))) := rfl
  have reached : s.Reached := .fresh _ _ _ _ (by rintro e (⟨_, _, ⟨⟩⟩ | ⟨_, ⟨⟩⟩))
  rcases evalFaults reached read with ⟨v, given⟩ | raised
  · cases failed.symm.trans given
  · exact ⟨read, raised⟩

theorem sumRaises {x y : Number} {cause : SumFault} (refused : Number.sum [x, y] = .error cause)
    (s : Session) (knows : s.machine.Knows "+") (deep : 2 ≤ s.host.depth) :
    ((Run.topLevel s.host (.list [.symbol "+", .number x, .number y])).exec s.machine).1 =
      .error (.host (.sum cause)) := by
  have added : Library.add [x, y] = .error (.host (.sum cause)) := by rw [Library.add, refused]
  have body (m : Machine) : (Library.numeric Library.add [.number x, .number y]).exec m =
      (.error (.host (.sum cause)), m) := Run.execBindError (congrArg (·, m) added)
  obtain ⟨n, depth⟩ := Nat.exists_eq_add_of_le' deep
  have call : (s.host.evaluator.eval (.list [.symbol "+", .number x, .number y])).exec s.machine =
      (Run.inScope (Library.numeric Library.add [.number x, .number y])).exec s.machine := by
    rw [Host.evaluator, depth]
    exact evalNamedCall s.host n knows _
  have raised : (s.host.evaluator.eval (.list [.symbol "+", .number x, .number y])).exec s.machine =
      (.error (.host (.sum cause)), s.machine) := by
    rw [call, Run.execInScope, body]
    rfl
  rw [topLevelRaises raised]

-- The nearest number to 10 ^ 308.
def Number.huge : Number := .finite false ⟨9214871658872686752, by decide⟩

theorem hugeRead : Number.ofText? "1e308" = some Number.huge := by decide +kernel

theorem hugeSum : Number.sum [.huge, .huge] = .error .overflow := by decide +kernel

/-- A sum that is beyond the range of numbers fails, and not with an error of the language. -/
theorem Session.overflowEscapes :
    let s := fresh (.bare 400 400) ⟨[]⟩ (.ofText "" .newline) .empty
    let sum : Value := .list [.symbol "+", .number .huge, .number .huge]
    s.Reached ∧ Form.parse "(+ 1e308 1e308)" = .ok [sum] ∧
      ((Run.topLevel s.host sum).exec s.machine).1 = .error (.host (.sum .overflow)) ∧
      ¬ Fault.Foreseen (.host (.sum .overflow)) := by
  intro s sum
  have tokens : lex "(+ 1e308 1e308)" = [⟨.openList, "("⟩, ⟨.operator, "+"⟩, ⟨.number, "1e308"⟩,
      ⟨.number, "1e308"⟩, ⟨.closeList, ")"⟩] := by decide +kernel
  have operand : Form.Spells [⟨.number, "1e308"⟩] (.number .huge) :=
    .atom trivial (by simp only [Token.atom, hugeRead])
  have operator : Form.Spells [⟨.operator, "+"⟩] (.symbol "+") := .atom trivial rfl
  have items := Form.SpellsAll.cons operator (.cons operand (.single operand))
  have spelled : Form.SpellsAll (lex "(+ 1e308 1e308)") [sum] := by
    rw [tokens]
    exact .single (.list rfl items rfl)
  have read := (Form.parseAccepts _ _).2 ⟨by rw [tokens]; exact List.cons_ne_nil _ _, spelled⟩
  have reached : s.Reached := .fresh _ _ _ _ (by rintro e (⟨_, _, ⟨⟩⟩ | ⟨_, ⟨⟩⟩))
  exact ⟨reached, read, sumRaises hugeSum s rfl (by decide), id⟩

end DynLisp
