import DynLisp.Proofs.LibraryOutcome
import DynLisp.Proofs.Run

/-! Runs that ask for others. `Relays` says that a run changes the machine only by the runs it
asks for and by bindings, and fails only with faults of its own or as one of those runs failed;
it is kept by all that the bodies of the library are made of. `Only` is the second half for runs
that ask for none, but may use the streams. -/

namespace DynLisp

namespace Run

variable {α β : Type}

/-- The second machine comes from the first by runs that were asked for and gave values, and by
bindings in the innermost scope. -/
inductive Reaches (asks : Run Value → Prop) (m : Machine) : Machine → Prop where
  | start : Reaches asks m m
  | given {nested before v after} (prior : Reaches asks m before) (asked : asks nested)
      (gave : nested.exec before = (.ok v, after)) : Reaches asks m after
  | bound {before} (prior : Reaches asks m before) (name : String) (v : Value) :
      Reaches asks m { before with stack := before.stack.bindLocal name v }

/-- The run fails with a fault of its own, or as one fails that it asked for. -/
def Fails (own : Fault → Prop) (asks : Run Value → Prop) (r : Run α) (m : Machine) : Prop :=
  ∀ fault after, r.exec m = (.error fault, after) → own fault ∨
    ∃ nested before, asks nested ∧ Reaches asks m before ∧ nested.exec before = (.error fault, after)

structure Relays (own : Fault → Prop) (asks : Run Value → Prop) (r : Run α) : Prop where
  gives : ∀ m a after, r.exec m = (.ok a, after) → Reaches asks m after
  fails : ∀ m, Fails own asks r m

variable {own : Fault → Prop} {asks : Run Value → Prop}

theorem Reaches.trans {m next last : Machine} (first : Reaches asks m next)
    (rest : Reaches asks next last) : Reaches asks m last := by
  induction rest with
  | start => exact first
  | given _ asked gave ih => exact .given ih asked gave
  | bound _ name v ih => exact .bound ih name v

theorem Relays.bindFails {r : Run α} {next : α → Run β} (first : Relays own asks r)
    (rest : ∀ a m, Fails own asks (next a) m) (m : Machine) : Fails own asks (r >>= next) m := by
  intro fault after failed
  rcases begun : r.exec m with ⟨cause | a, between⟩
  · rw [execBindError begun] at failed
    cases failed
    exact first.fails m fault after begun
  · rw [execBindOk begun] at failed
    have reached := first.gives m a between begun
    rcases rest a between fault after failed with raised | ⟨nested, before, asked, later, same⟩
    · exact .inl raised
    · exact .inr ⟨nested, before, asked, reached.trans later, same⟩

namespace Relays

theorem bind {r : Run α} {next : α → Run β} (first : Relays own asks r)
    (rest : ∀ a, Relays own asks (next a)) : Relays own asks (r >>= next) where
  gives m b after gave := by
    rcases begun : r.exec m with ⟨cause | a, between⟩
    · rw [execBindError begun] at gave
      cases gave
    · rw [execBindOk begun] at gave
      exact (first.gives m a between begun).trans ((rest a).gives between b after gave)
  fails := first.bindFails fun a => (rest a).fails

theorem ofExcept {result : Except Fault α} (raised : ∀ fault, result = .error fault → own fault) :
    Relays own asks (Run.ofExcept result) where
  gives m a after gave := by
    cases gave
    exact .start
  fails m fault after failed := by
    cases failed
    exact .inl (raised fault rfl)

theorem yields {Q : α → Prop} {result : Except Fault α} (h : Yields own Q result) :
    Relays own asks (Run.ofExcept result) := by
  refine ofExcept fun fault same => ?_
  rw [same] at h
  exact h

theorem pure (a : α) : Relays own asks (Pure.pure a) :=
  show Relays own asks (Run.ofExcept (.ok a)) from ofExcept nofun

/-- What was projected may be used by what follows. -/
theorem project {Q : α → Prop} {result : Except Fault α} {next : α → Run β}
    (h : Yields own Q result) (rest : ∀ a, result = .ok a → Relays own asks (next a)) :
    Relays own asks (Run.ofExcept result >>= next) := by
  cases result with
  | error fault =>
    have stopped : Relays own asks (Run.ofExcept (.error fault) : Run β) :=
      ofExcept fun cause same => by cases same; exact h
    exact stopped
  | ok a => exact rest a rfl

theorem asked {r : Run Value} (h : asks r) : Relays own asks r where
  gives _ _ _ gave := .given .start h gave
  fails m _ _ failed := .inr ⟨r, m, h, .start, failed⟩

theorem bindLocal (name : String) (v : Value) :
    Relays own asks (Run.onStack (·.bindLocal name v)) where
  gives m _ after gave := by
    cases gave
    exact .bound .start name v
  fails _ _ _ failed := by cases failed

theorem mapM {f : α → Run β} {as : List α} (each : ∀ a ∈ as, Relays own asks (f a)) :
    Relays own asks (as.mapM f) := by
  induction as with
  | nil => exact pure []
  | cons a as ih =>
    obtain ⟨here, there⟩ := List.forall_mem_cons.1 each
    rw [List.mapM_cons]
    exact here.bind fun b => (ih there).bind fun bs => pure (b :: bs)

theorem forM {f : α → Run Unit} {as : List α} (each : ∀ a ∈ as, Relays own asks (f a)) :
    Relays own asks (as.forM f) := by
  induction as with
  | nil => exact pure ()
  | cons a as ih =>
    obtain ⟨here, there⟩ := List.forall_mem_cons.1 each
    exact here.bind fun _ => ih there

theorem evalBody {ev : Evaluator} {forms : List Value}
    (each : ∀ form ∈ forms, asks (ev.eval form)) : Relays own asks (ev.evalBody forms) := by
  unfold Evaluator.evalBody
  generalize Value.nil = v
  induction forms generalizing v with
  | nil => exact pure v
  | cons form forms ih =>
    obtain ⟨here, there⟩ := List.forall_mem_cons.1 each
    rw [List.foldlM_cons]
    exact (asked here).bind fun w => ih there w

end Relays

/-- Where the streams raise only errors of `S`, the run fails with no fault but its own, and leaves the
streams so. -/
def Only (own : Fault → Prop) (S : HostError → Prop) (r : Run α) : Prop :=
  ∀ m : Machine, (∀ e, m.Raises e → S e) →
    Yields own (fun _ => True) (r.exec m).1 ∧ ∀ e, (r.exec m).2.Raises e → S e

variable {S : HostError → Prop}

theorem Only.fails {r : Run α} {m : Machine} (h : Only own m.Raises r) : Fails own asks r m := by
  intro fault after failed
  have kept := (h m fun _ => id).1
  rw [failed] at kept
  exact .inl kept

namespace Only

theorem bind {r : Run α} {next : α → Run β} (first : Only own S r)
    (rest : ∀ a, Only own S (next a)) : Only own S (r >>= next) := by
  intro m inside
  have begun := first m inside
  rcases h : r.exec m with ⟨cause | a, between⟩ <;> rw [h] at begun
  · rw [execBindError h]
    exact begun
  · rw [execBindOk h]
    exact rest a between begun.2

theorem yields {Q : α → Prop} {result : Except Fault α} (h : Yields own Q result) :
    Only own S (Run.ofExcept result) :=
  fun _ inside => ⟨h.weaken fun _ _ => trivial, inside⟩

theorem pure (a : α) : Only own S (Pure.pure a) := fun _ inside => ⟨trivial, inside⟩

theorem fail {fault : Fault} (raised : own fault) : Only own S (Run.fail fault : Run α) :=
  fun _ inside => ⟨raised, inside⟩

theorem ofNumber (x : Number) : Only own S (Run.ofNumber x) := by
  intro m inside
  rw [execOfNumber]
  split
  · exact ⟨trivial, inside⟩
  · exact ⟨trivial, inside⟩

section Streams

variable (language : ∀ e, own (.lisp e)) (raised : ∀ e, S e → own (.host (.raised e)))
include language raised

theorem refused {m : Machine} (inside : ∀ e, m.Raises e → S e) {result : Except Fault α}
    (refuses : ∀ fault, result = .error fault → m.Refuses fault) :
    Yields own (fun _ => True) result := by
  cases result with
  | ok a => trivial
  | error fault =>
    cases refuses fault rfl with
    | system message => exact language _
    | other raises => exact raised _ (inside _ raises)

theorem request (r : OutputRequest) : Only own S (Run.request r) := fun _ inside =>
  ⟨refused language raised inside fun _ => requestRefused,
    fun e raises => inside e (requestRaises raises)⟩

theorem readLine : Only own S Run.readLine := fun _ inside =>
  ⟨refused language raised inside fun _ => readLineRefused,
    fun e raises => inside e (readLineRaises raises)⟩

end Streams

end Only

end Run

end DynLisp
