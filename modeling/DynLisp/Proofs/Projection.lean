import DynLisp.Proofs.Entry
import DynLisp.Proofs.Equality
import DynLisp.Proofs.Guards

/-! What the host takes out. A projection onto a type of the host succeeds for the values of that
type's variant and for no others, and what it gives comes back in as an equal value. A value that
stays in the language comes back as itself. -/

namespace DynLisp

/-- A finite number without a fraction. -/
def Number.IsWhole (x : Number) : Prop := ∃ n : Int, x.toSteps? = some (n * unity)

namespace HostType

/-- The values of the type's variant. An integer is a whole number, and an object is of exactly the
class that is asked for. -/
def Takes : HostType → Value → Prop
  | bool, v => v.descriptor? = some .bool
  | number, v => v.descriptor? = some .number
  | integer, v => ∃ x, v = .number x ∧ x.IsWhole
  | text, v => v.descriptor? = some .text
  | list, v => v.descriptor? = some .list
  | nil, v => v.descriptor? = some .nil
  | symbol, v => v.descriptor? = some .symbol
  | quote, v => ∃ d, v.descriptor? = some (.quoteOf d)
  | builtin, v => v.descriptor? = some .builtin
  | lambda, v => v.descriptor? = some .lambda
  | type, v => v.descriptor? = some .type
  | object c, v => ∃ o id, v = .foreign o id ∧ o.cls = c
  | unsupported _, _ => False

/-- All other types give the values that they take as they are. -/
def IsDirect : HostType → Prop
  | integer | nil | object _ | unsupported _ => False
  | _ => True

end HostType

namespace Value

/-- No object of the host lies bare, and what is wrapped carries the id of its class. -/
def IsKnown (r : Registry) : Value → Prop
  | foreign o id => r.Assigns o.cls id
  | v => ¬ v.IsRaw

theorem knownNotRaw {r : Registry} {v : Value} (known : v.Within (IsKnown r)) :
    v.Within fun x => ¬ x.IsRaw := by
  intro x inside hidden
  have here := known x inside hidden
  cases x with
  | foreign => exact id
  | _ => exact here

end Value

namespace Exchange

open Value (Within IsKnown withinList withinQuote)

mutual

theorem toLispSelf : (v : Value) → v.Within (fun x => ¬ x.IsRaw) → toLisp v = pure v
  | .list items, clean => by
    rw [toLisp, toLispAllSelf items (withinList.1 clean)]
    rfl
  | .absent, clean | .integer _ _, clean | .tuple _ _, clean | .object _, clean
  | .stranger _ _ _, clean | .hostQuote _ _, clean => absurd trivial (clean _ .here trivial)
  | .number _, _ | .bool _, _ | .symbol _, _ | .text _, _ | .derivedText _ _, _ | .nil, _
  | .quote _, _ | .builtin _, _ | .lambda _ _, _ | .type _, _ | .foreign _ _, _ => rfl

theorem toLispAllSelf : (vs : List Value) → (∀ v ∈ vs, v.Within fun x => ¬ x.IsRaw) →
    toLispAll vs = pure vs
  | [], _ => rfl
  | v :: vs, clean => by
    obtain ⟨first, rest⟩ := List.forall_mem_cons.1 clean
    rw [toLispAll, toLispSelf v first, toLispAllSelf vs rest]
    rfl

end

/-- How a projection of a value onto a type ends. What it gives goes back in. -/
inductive Leaves (t : HostType) (d : Descriptor) (v : Value) : Except Fault Value × Registry → Prop where
  | gives {h w after} (takes : t.Takes v) (back : ((toLisp h).exec after).1 = .ok w)
      (equal : w.same v = true) : Leaves t d v (.ok h, after)
  | mismatch {after} (refused : ¬ t.Takes v) (other : ∀ c o id, t = .object c → v ≠ .foreign o id) :
      Leaves t d v (.error (.lisp (.wrongType [d] v)), after)
  | otherClass {c o id n after} (refused : o.cls ≠ c) (object : t = .object c)
      (wrapped : v = .foreign o id) (asked : after.Assigns c n) :
      Leaves t d v (.error (.lisp (.foreignMismatch n c.name v)), after)

variable {v : Value} {r : Registry}

theorem leavesSelf {t : HostType} {d : Descriptor} (takes : t.Takes v)
    (clean : v.Within fun x => ¬ x.IsRaw) : Leaves t d v ((pure v : Exchange Value).exec r) :=
  .gives takes (congrArg (fun x => (x.exec r).1) (toLispSelf v clean)) ((v.sameCore v).2 rfl)

theorem fromLispInteger (x : Number) (r : Registry) :
    (fromLisp .integer (.number x)).exec r =
      match x.toInt? with
      | some n => (.ok (.integer n 0), r)
      | none => (.error (.lisp (.wrongType [.number] (.number x))), r) := by
  show ((Value.integer · 0) <$> Value.asInteger (.number x), r) = _
  cases whole : x.toInt? with
  | some n => rw [Value.asIntegerWhole whole]; rfl
  | none => rw [Value.asIntegerFraction whole]; rfl

theorem leavesInteger : Leaves .integer .number v ((fromLisp .integer v).exec r) := by
  cases v with
  | number x =>
    rw [fromLispInteger]
    cases whole : x.toInt? with
    | some n =>
      obtain ⟨s, q, read, equal⟩ := Number.ofIntSame whole
      have back : ((toLisp (.integer n 0)).exec r).1 = .ok (.number (.finite s q)) := by
        rw [toLispInteger, read]
        rfl
      exact .gives ⟨x, rfl, n, Number.toIntIff.1 whole⟩ back equal
    | none =>
      refine .mismatch ?_ ?_
      · rintro ⟨_, ⟨⟩, n, steps⟩
        rw [Number.toIntIff.2 steps] at whole
        cases whole
      · rintro c o id ⟨⟩
  | _ =>
    refine .mismatch ?_ ?_
    · rintro ⟨x, ⟨⟩, _⟩
    · rintro c o id ⟨⟩

theorem leavesNil : Leaves .nil .nil v ((fromLisp .nil v).exec r) := by
  cases v with
  | nil => exact .gives rfl rfl rfl
  | _ =>
    refine .mismatch ?_ ?_
    · simp [HostType.Takes, Value.descriptor?]
    · rintro c o id ⟨⟩

theorem leavesObject {qs : List Request} (known : v.Within (IsKnown (Registry.run qs)))
    (c : HostClass) :
    Leaves (.object c) .foreign v ((fromLisp (.object c) v).exec (Registry.run qs)) := by
  cases v with
  | foreign o id =>
    have assigned : (Registry.run qs).Assigns o.cls id := known _ .here trivial
    have asked := Registry.typeIdRunAssigns qs (.typeId c) rfl
    rw [← Registry.typeIdRun qs (.typeId c) rfl] at asked
    change Leaves _ _ _ ((downcast c o id).exec (Registry.run qs))
    simp only [execDowncast, Registry.assignedExact assigned c]
    split
    · rename_i same
      subst same
      have own := (Registry.assignedExact assigned o.cls).2 rfl
      refine .gives ⟨o, id, rfl, rfl⟩ ?_ ((Value.sameCore _ _).2 rfl)
      rw [toLisp, execWrapObject, asked, own]
    · rename_i other
      exact .otherClass other rfl rfl asked
  | _ =>
    refine .mismatch ?_ ?_
    · rintro ⟨o, id, ⟨⟩, _⟩
    · rintro c o id _ ⟨⟩

theorem takenDirect {t : HostType} (direct : t.IsDirect) (takes : t.Takes v) :
    fromLisp t v = pure v := by
  cases t <;> cases v <;> simp_all [HostType.Takes, HostType.IsDirect, Value.descriptor?] <;> rfl

theorem leavesDirect {t : HostType} {d : Descriptor} (direct : t.IsDirect)
    (supported : t.descriptor? = some d) (clean : v.Within fun x => ¬ x.IsRaw) :
    Leaves t d v ((fromLisp t v).exec r) := by
  by_cases takes : t.Takes v
  · rw [takenDirect direct takes]
    exact leavesSelf takes clean
  · obtain ⟨e, typed⟩ := clean.typed
    unfold fromLisp
    split
    case h_1 | h_2 | h_3 | h_4 => exact direct.elim
    case h_5 | h_6 | h_7 | h_8 | h_9 | h_10 | h_13 | h_14 | h_15 => exact absurd rfl takes
    case h_11 =>
      obtain ⟨inner, _, rfl⟩ := Option.map_eq_some_iff.1 typed
      exact absurd ⟨inner, typed⟩ takes
    case h_12 => cases typed
    · rw [supported]
      refine .mismatch takes ?_
      rintro c o id rfl
      exact direct.elim

theorem leavesSupported {qs : List Request} (known : v.Within (IsKnown (Registry.run qs)))
    {t : HostType} {d : Descriptor} (supported : t.descriptor? = some d) :
    Leaves t d v ((fromLisp t v).exec (Registry.run qs)) := by
  cases t with
  | integer =>
    cases supported
    exact leavesInteger
  | nil =>
    cases supported
    exact leavesNil
  | object c =>
    cases supported
    exact leavesObject known c
  | unsupported => cases supported
  | _ => exact leavesDirect trivial supported (Value.knownNotRaw known)

/-- A projection succeeds exactly for the values of the type's variant, and what it gives comes back
as an equal value. Otherwise it says which variant it wanted, or of which class the object should
have been. -/
theorem projectionReturns (qs : List Request) {v : Value}
    (known : v.Within (IsKnown (Registry.run qs))) {t : HostType} {d : Descriptor}
    (supported : t.descriptor? = some d) :
    let left := (fromLisp t v).exec (Registry.run qs)
    ((∃ h, left.1 = .ok h) ↔ t.Takes v) ∧
      (∀ h, left.1 = .ok h → ∃ w, ((toLisp h).exec left.2).1 = .ok w ∧ w.same v = true) ∧
      (∀ fault, left.1 = .error fault →
        (∀ c o id, t = .object c → v ≠ .foreign o id) ∧ fault = .lisp (.wrongType [d] v) ∨
        ∃ c o id n, t = .object c ∧ v = .foreign o id ∧ o.cls ≠ c ∧ left.2.Assigns c n ∧
          fault = .lisp (.foreignMismatch n c.name v)) ∧
      ∃ w, ((toLisp v).exec (Registry.run qs)).1 = .ok w ∧ w.same v = true := by
  intro left
  have itself : ∃ w, ((toLisp v).exec (Registry.run qs)).1 = .ok w ∧ w.same v = true :=
    ⟨v, by rw [toLispSelf v (Value.knownNotRaw known)]; rfl, (v.sameCore v).2 rfl⟩
  have leaves : Leaves t d v left := leavesSupported known supported
  generalize left = ended at leaves
  cases leaves with
  | gives takes back equal =>
    refine ⟨iff_of_true ⟨_, rfl⟩ takes, ?_, ?_, itself⟩
    · rintro _ ⟨⟩
      exact ⟨_, back, equal⟩
    · rintro fault ⟨⟩
  | mismatch refused other =>
    refine ⟨iff_of_false ?_ refused, ?_, ?_, itself⟩
    · rintro ⟨h, ⟨⟩⟩
    · rintro h ⟨⟩
    · rintro _ ⟨⟩
      exact .inl ⟨other, rfl⟩
  | @otherClass c o id n after different object wrapped asked =>
    subst object wrapped
    refine ⟨iff_of_false ?_ ?_, ?_, ?_, itself⟩
    · rintro ⟨h, ⟨⟩⟩
    · rintro ⟨_, _, ⟨⟩, same⟩
      exact different same
    · rintro h ⟨⟩
    · rintro _ ⟨⟩
      exact .inr ⟨c, o, id, n, rfl, rfl, different, asked, rfl⟩

theorem listWithObjectReturns :
    let o : HostObject := ⟨0, .base 0 "Point" [], []⟩
    let qs : List Request := [.wrap (.object o)]
    let v : Value := .list [.foreign o 1, .number (.nan 7)]
    v.Within (IsKnown (Registry.run qs)) ∧ HostType.descriptor? .list = some .list ∧
      ∃ h, ((fromLisp .list v).exec (Registry.run qs)).1 = .ok h ∧
        ∃ w, ((toLisp h).exec ((fromLisp .list v).exec (Registry.run qs)).2).1 = .ok w ∧
          w.same v = true := by
  intro o qs v
  have known : v.Within (IsKnown (Registry.run qs)) := by
    refine withinList.2 (List.forall_mem_cons.2 ⟨?_, List.forall_mem_singleton.2 ?_⟩)
    · rintro x ⟨⟩ _
      rfl
    · exact Value.atomWithin trivial
  obtain ⟨succeeds, returns, _⟩ := projectionReturns qs known (t := .list) rfl
  obtain ⟨h, ended⟩ := succeeds.2 rfl
  exact ⟨known, rfl, h, ended, returns h ended⟩

end Exchange

end DynLisp
