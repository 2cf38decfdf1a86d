import DynLisp.Proofs.FaultFamily
import DynLisp.Proofs.Look
import DynLisp.Proofs.RoundTrip

/-! The text of a value as its normal form. Equal values of the language print alike, since no two
builtins of the library do the same work for the same number of arguments, and of a wrapped object
the text shows the class only. Values that can be read back print alike only if they are equal:
their one text is read in one way. -/

namespace DynLisp

/-- No function of the library has two names. -/
theorem Library.namesPrimitive :
    ∀ f ∈ builtins, ∀ g ∈ builtins, f.primitive = g.primitive → f.name = g.name := by
  decide

namespace Value

/-- A value of the language, with no other builtins than those of the library. -/
def Ordinary (v : Value) : Prop :=
  v.Within fun x => x.IsStandard ∨ (∃ o typeId, x = foreign o typeId) ∨
    ∃ s typeName, x = derivedText s typeName

/-- An object that is wrapped in both values is of one class in both, whatever it holds. -/
def ClassesAgree (v w : Value) : Prop :=
  ∀ o p i j, (foreign o i).Occurs v → (foreign p j).Occurs w → o.isSame p = true → o.cls = p.cls

variable {v w : Value}

theorem ordinaryHidden (left : v.Ordinary) (right : w.Ordinary) (classes : v.ClassesAgree w)
    (kept : v.IsOpaque) (same : v.same w = true) : v.source = w.source := by
  rcases left v .here kept with ⟨f, known, rfl⟩ | ⟨o, i, rfl⟩ | ⟨s, typeName, rfl⟩
  · cases w with
    | builtin g =>
      rcases right _ .here trivial with ⟨_, knownToo, ⟨⟩⟩ | ⟨_, _, ⟨⟩⟩ | ⟨_, _, ⟨⟩⟩
      obtain ⟨work, _⟩ : f.primitive = g.primitive ∧ f.arity = g.arity := by
        simpa [Value.same, Builtin.same] using same
      rw [source, source, Library.namesPrimitive f known g knownToo work]
    | _ => simp [Value.same] at same
  · cases w with
    | foreign p j =>
      have one : o.isSame p = true := by simp_all [Value.same]
      rw [source, source, classes o p i j .here .here one]
    | _ => simp [Value.same] at same
  · exact (textLook (derivedSame s typeName w ▸ same)).1

theorem ordinaryShowsAlike :
    ShowsAlike fun v w => v.Ordinary ∧ w.Ordinary ∧ v.ClassesAgree w where
  items := fun ⟨left, right, classes⟩ p member =>
    have ⟨one, other⟩ := List.of_mem_zip member
    ⟨withinList.1 left p.1 one, withinList.1 right p.2 other,
      fun o q i j inside outside => classes o q i j (.item one inside) (.item other outside)⟩
  forms := fun ⟨left, right, classes⟩ p member =>
    have ⟨one, other⟩ := List.of_mem_zip member
    ⟨withinLambda.1 left p.1 one, withinLambda.1 right p.2 other,
      fun o q i j inside outside => classes o q i j (.form one inside) (.form other outside)⟩
  payload := fun ⟨left, right, classes⟩ => ⟨withinQuote.1 left, withinQuote.1 right,
    fun o q i j inside outside => classes o q i j (.payload inside) (.payload outside)⟩
  hidden := fun ⟨left, right, classes⟩ kept same => ordinaryHidden left right classes kept same

theorem Readable.within {P : Value → Prop} (readable : v.Readable) : v.Within P := by
  induction readable with
  | number | text | symbol => exact atomWithin trivial
  | list _ ih => exact withinList.2 ih
  | quote _ ih => exact withinQuote.2 ih

theorem Readable.classesAgree (readable : v.Readable) : v.ClassesAgree w :=
  fun _ _ _ _ inside => (readable.within (P := fun _ => False) _ inside trivial).elim

theorem sourceDecides (left : v.Readable) (right : w.Readable) (texts : v.source = w.source) :
    v.same w = true := by
  obtain ⟨u, read, equal⟩ := sourceRoundTrip left
  obtain ⟨u', readToo, equalToo⟩ := sourceRoundTrip right
  obtain rfl : u = u' := by
    rw [texts, readToo] at read
    cases read
    rfl
  rw [sameCore] at equal equalToo ⊢
  exact equal.symm.trans equalToo

/-- Equal values have equal texts, and those that can be read back have them only then. -/
theorem sourceCanonical :
    (∀ v w : Value, v.Ordinary → w.Ordinary → v.ClassesAgree w → v.same w = true →
      v.source = w.source) ∧
    ∀ v w : Value, v.Readable → w.Readable → (v.source = w.source ↔ v.same w = true) := by
  have alike := alikeSource ordinaryShowsAlike
  refine ⟨fun v w left right classes => alike v w ⟨left, right, classes⟩, fun v w left right => ?_⟩
  exact ⟨sourceDecides left right, alike v w ⟨left.within, right.within, left.classesAgree⟩⟩

/-- A zero of the other sign and a field that was set since are not shown. -/
theorem changedObjectPrintsAlike :
    let o : HostObject := ⟨0, .base 0 "Point" ["x"], [("x", .none)]⟩
    let p := o.setField "x" (.bool true)
    let code (x : Number) (q : HostObject) : Value :=
      .lambda ["a"] [.list [Library.named "+", .number x, .foreign q 1]]
    let data (x : Number) : Value := .quote (.list [.number x, .text "0"])
    (code Number.zero o).same (code Number.zero.neg p) = true ∧
      (code Number.zero o).source = (code Number.zero.neg p).source ∧
      (data Number.zero).same (data Number.zero.neg) = true ∧
      (data Number.zero).source = (data Number.zero.neg).source := by
  intro o p code data
  have shown (x : Number) (q : HostObject) :
      (code x q).Within fun y => y.IsStandard ∨ y = .foreign q 1 := by
    have plus : (Library.named "+").IsStandard := ⟨_, by decide, rfl⟩
    have wrapped : (Value.foreign q 1).Within fun y => y.IsStandard ∨ y = .foreign q 1 := by
      rintro y ⟨⟩ _
      exact .inr rfl
    simp only [code, withinLambda, withinList, List.forall_mem_cons]
    exact ⟨⟨withinBuiltin.2 (.inl plus), atomWithin trivial, wrapped, List.forall_mem_nil _⟩,
      List.forall_mem_nil _⟩
  have ordinary (x : Number) (q : HostObject) : (code x q).Ordinary :=
    fun y inside kept => (shown x q y inside kept).imp_right fun same => .inl ⟨q, 1, same⟩
  have classes (x y : Number) : (code x o).ClassesAgree (code y p) := by
    intro _ _ _ _ inside outside _
    rcases shown x o _ inside trivial with ⟨_, _, ⟨⟩⟩ | mine
    rcases shown y p _ outside trivial with ⟨_, _, ⟨⟩⟩ | other
    rw [(Value.foreign.inj mine).1, (Value.foreign.inj other).1]
    rfl
  have readable (negative : Bool) : (data (Number.zero.withSign negative)).Readable :=
    .quote (.list (List.forall_mem_cons.2 ⟨.number negative _, List.forall_mem_singleton.2 (.text _)⟩))
  have same : (code Number.zero o).same (code Number.zero.neg p) = true := by decide
  have sameToo : (data Number.zero).same (data Number.zero.neg) = true := by decide
  obtain ⟨equal, canonical⟩ := sourceCanonical
  exact ⟨same, equal _ _ (ordinary _ _) (ordinary _ _) (classes _ _) same, sameToo,
    (canonical _ _ (readable false) (readable true)).2 sameToo⟩

end Value

end DynLisp
