import DynLisp.Machine

/-! How a run goes from a machine, by the way it is built. Failures keep the machine
they leave; what follows a failure does not run. A request to a stream does not change
how the stream answers others. -/

namespace DynLisp

/-- Some request to a stream of the machine fails with this error, which is not one of the system. -/
def Machine.Raises (m : Machine) (e : HostError) : Prop :=
  (∃ n r, m.output.failure? n r = some (.other e)) ∨ ∃ n, m.input.failure? n = some (.other e)

/-- How a stream of the machine refuses a request. -/
inductive Machine.Refuses (m : Machine) : Fault → Prop where
  | system (message) : Refuses m (.lisp (.stream (.host message)))
  | other {e} (raises : m.Raises e) : Refuses m (.host (.raised e))

namespace Run

variable {α β : Type}

@[simp] theorem execOfExcept (result : Except Fault α) (m : Machine) :
    (ofExcept result).exec m = (result, m) := rfl

@[simp] theorem execGet (m : Machine) : (get : Run Machine).exec m = (.ok m, m) := rfl

theorem execMk (f : Machine → Except Fault α × Machine) (m : Machine) :
    exec (ExceptT.mk f) m = f m := rfl

theorem execBind (r : Run α) (next : α → Run β) (m : Machine) :
    (r >>= next).exec m =
      match r.exec m with
      | (.ok a, after) => (next a).exec after
      | (.error fault, after) => (.error fault, after) := by
  simp only [exec, ExceptT.run_bind, StateT.run_bind]
  show (match r.run.run m with | (a, s) => _) = _
  rcases r.run.run m with ⟨_ | _, _⟩ <;> rfl

theorem execBindOk {r : Run α} {next : α → Run β} {m after : Machine} {a : α}
    (first : r.exec m = (.ok a, after)) : (r >>= next).exec m = (next a).exec after := by
  rw [execBind, first]

theorem execBindError {r : Run α} {next : α → Run β} {m after : Machine} {fault : Fault}
    (first : r.exec m = (.error fault, after)) :
    (r >>= next).exec m = (.error fault, after) := by
  rw [execBind, first]

theorem execInScope (body : Run α) (m : Machine) :
    (inScope body).exec m =
      let (result, after) := body.exec { m with stack := m.stack.enter }
      match after.stack.leave? with
      | some stack => (result, { after with stack })
      | none => (.error (.host .globalScope), after) := rfl

theorem execLookup (name : String) (m : Machine) :
    (lookup name).exec m =
      match m.stack.lookup? name with
      | some v => (.ok v, m)
      | none => (.error (.lisp (.undeclared name)), m) := by
  refine (execBindOk (execGet m)).trans ?_
  cases m.stack.lookup? name <;> rfl

theorem execOfNumber (x : Number) (m : Machine) :
    (ofNumber x).exec m =
      if x.isNaN then (.ok (.number (.nan m.nextMark)), { m with nextMark := m.nextMark + 1 })
      else (.ok (.number x), m) := by
  unfold ofNumber
  split <;> rfl

theorem execRequest (r : OutputRequest) (m : Machine) :
    (request r).exec m =
      ((m.output.answer r).1.mapError StreamFault.fault,
        { m with output := (m.output.answer r).2 }) := rfl

theorem execReadLine (m : Machine) :
    readLine.exec m =
      (m.input.readLine.1.mapError StreamFault.fault, { m with input := m.input.readLine.2 }) := rfl

theorem requestRaises {r : OutputRequest} {m : Machine} {e : HostError}
    (raises : ((request r).exec m).2.Raises e) : m.Raises e := by
  have same : ((request r).exec m).2.output.failure? = m.output.failure? := by
    simp only [execRequest, OutputStream.answer]
    split <;> rfl
  rwa [Machine.Raises, same] at raises

theorem readLineRaises {m : Machine} {e : HostError} (raises : (readLine.exec m).2.Raises e) :
    m.Raises e := by
  have same : (readLine.exec m).2.input.failure? = m.input.failure? := by
    simp only [execReadLine, InputStream.readLine]
    split <;> rfl
  rwa [Machine.Raises, same] at raises

theorem requestRefused {r : OutputRequest} {m : Machine} {fault : Fault}
    (failed : ((request r).exec m).1 = .error fault) : m.Refuses fault := by
  simp only [execRequest, OutputStream.answer] at failed
  split at failed
  · rename_i answer refused
    cases failed
    cases answer with
    | system message => exact .system message
    | other e => exact .other (.inl ⟨_, _, refused⟩)
  · cases failed

theorem readLineRefused {m : Machine} {fault : Fault} (failed : (readLine.exec m).1 = .error fault) :
    m.Refuses fault := by
  simp only [execReadLine, InputStream.readLine] at failed
  split at failed
  · rename_i answer refused
    cases failed
    cases answer with
    | system message => exact .system message
    | other e => exact .other (.inr ⟨_, refused⟩)
  · cases failed

end Run

end DynLisp
