import DynLisp.Association
import DynLisp.Exchange
import DynLisp.Value.Equality
import Mathlib.Data.List.Nodup

/-! Class ids over whole runs. Whatever a host asks of the registry, the classes it names
get the ids 1, 2 and so on in the order of their first use. An id never changes and is
never given twice, so that an id kept in a wrapper tells for good the class of its object. -/

namespace DynLisp

namespace Registry

/-- Asking for the class gives this id and assigns nothing. -/
def Assigns (r : Registry) (c : HostClass) (id : Nat) : Prop := r.typeId c = (id, r)

variable {r : Registry} {c d : HostClass} {id : Nat}

theorem typeIdClasses (r : Registry) (c : HostClass) : (r.typeId c).2.classes =
    if c ∈ r.classes then r.classes else r.classes ++ [c] := by
  unfold typeId
  split
  · rename_i k found
    obtain ⟨inside, rfl, _⟩ := List.idxOf?_eq_some_iff.mp found
    simp
  · rename_i unknown
    simp [List.idxOf?_eq_none_iff.mp unknown]

theorem typeIdNodup (distinct : r.classes.Nodup) (c : HostClass) :
    (r.typeId c).2.classes.Nodup := by
  rw [typeIdClasses]
  exact addedNodup distinct c

theorem typeIdExtends (r : Registry) (c : HostClass) : r.classes <+: (r.typeId c).2.classes := by
  rw [typeIdClasses]
  exact addedExtends c

theorem assignsAt (distinct : r.classes.Nodup) :
    r.Assigns c id ↔ ∃ k, r.classes[k]? = some c ∧ id = k + 1 := by
  unfold Assigns typeId
  constructor
  · intro known
    split at known
    · rename_i k found
      obtain ⟨inside, here, _⟩ := List.idxOf?_eq_some_iff.mp found
      cases known
      exact ⟨k, by simp [here, inside], rfl⟩
    · -- A class not seen before would make the list longer.
      have longer := congrArg (fun answer => answer.2.classes.length) known
      simp at longer
  · intro known
    obtain ⟨k, here, rfl⟩ := known
    obtain ⟨inside, here⟩ := List.getElem?_eq_some_iff.mp here
    have found : r.classes.idxOf? c = some k := by
      refine List.idxOf?_eq_some_iff.mpr ⟨inside, here, fun j before same => ?_⟩
      have := distinct.getElem_inj_iff.mp (same.trans here.symm)
      omega
    rw [found]

theorem typeIdAssigns (distinct : r.classes.Nodup) (c : HostClass) :
    (r.typeId c).2.Assigns c (r.typeId c).1 := by
  rw [assignsAt (typeIdNodup distinct c)]
  unfold typeId
  split
  · rename_i k found
    obtain ⟨inside, here, _⟩ := List.idxOf?_eq_some_iff.mp found
    exact ⟨k, by simp [here, inside], rfl⟩
  · exact ⟨r.classes.length, by simp, rfl⟩

theorem assignsInjective (distinct : r.classes.Nodup) (left : r.Assigns c id)
    (right : r.Assigns d id) : c = d := by
  obtain ⟨k, here, rfl⟩ := (assignsAt distinct).mp left
  obtain ⟨j, there, same⟩ := (assignsAt distinct).mp right
  obtain rfl : k = j := by omega
  exact Option.some.inj (here.symm.trans there)

end Registry

namespace Exchange

def exec {α : Type} (x : Exchange α) (r : Registry) : Except Fault α × Registry := x.run.run r

theorem execWrapObject (o : HostObject) (r : Registry) :
    (wrap (.object o)).exec r = (.ok (.foreign o (r.typeId o.cls).1), (r.typeId o.cls).2) := rfl

theorem execWrapRefused {v : Value} (other : ∀ o, v ≠ .object o) (r : Registry) :
    (wrap v).exec r = (.error (.lisp (.wrongType [.foreign] v)), r) := by
  cases v with
  | object o => exact absurd rfl (other o)
  | _ => rfl

theorem execDowncast (c : HostClass) (o : HostObject) (id : Nat) (r : Registry) :
    (downcast c o id).exec r =
      (if (r.typeId c).1 = id then .ok (.object o)
        else .error (.lisp (.foreignMismatch (r.typeId c).1 c.name (.foreign o id))),
        (r.typeId c).2) := by
  show exec (if (r.typeId c).1 = id then _ else _) (r.typeId c).2 = _
  split <;> rfl

/-- What a host can ask for: the id of a class, a value wrapped, or the object of a wrapper as one
of a class. -/
inductive Request where
  | typeId (c : HostClass)
  | wrap (v : Value)
  | downcast (c : HostClass) (o : HostObject) (id : Nat)

namespace Request

def class? : Request → Option HostClass
  | typeId c => some c
  | wrap (.object o) => some o.cls
  | wrap _ => none
  | downcast c _ _ => some c

def after (r : Registry) : Request → Registry
  | typeId c => ((Exchange.typeId c).exec r).2
  | wrap v => ((Exchange.wrap v).exec r).2
  | downcast c o id => ((Exchange.downcast c o id).exec r).2

theorem afterClass {q : Request} {c : HostClass} (named : q.class? = some c) (r : Registry) :
    q.after r = (r.typeId c).2 := by
  unfold class? at named
  split at named
  · cases named; rfl
  · cases named; rfl
  · cases named
  · cases named
    rw [after, execDowncast]

theorem afterRefused {q : Request} (none : q.class? = none) (r : Registry) : q.after r = r := by
  unfold class? at none
  split at none
  · cases none
  · cases none
  · rename_i v other
    rw [after, execWrapRefused other]
  · cases none

end Request

end Exchange

namespace Registry

open Exchange

def run (qs : List Request) : Registry := qs.foldl Request.after .empty

def firstUses (qs : List Request) : List HostClass := (qs.filterMap Request.class?).eraseDups

theorem runAppend (qs more : List Request) : run (qs ++ more) = more.foldl Request.after (run qs) :=
  List.foldl_append

theorem afterNodup {r : Registry} (distinct : r.classes.Nodup) (q : Request) :
    (q.after r).classes.Nodup := by
  cases named : q.class? with
  | none => rwa [Request.afterRefused named]
  | some c =>
    rw [Request.afterClass named]
    exact typeIdNodup distinct c

theorem afterExtends (r : Registry) (q : Request) : r.classes <+: (q.after r).classes := by
  cases named : q.class? with
  | none => simp only [Request.afterRefused named, List.prefix_rfl]
  | some c =>
    rw [Request.afterClass named]
    exact typeIdExtends r c

theorem runNodup (qs : List Request) : (run qs).classes.Nodup := by
  unfold run
  suffices h : ∀ r : Registry, r.classes.Nodup → (qs.foldl Request.after r).classes.Nodup from
    h _ List.nodup_nil
  induction qs with
  | nil => exact fun r distinct => distinct
  | cons q qs ih => exact fun r distinct => ih _ (afterNodup distinct q)

theorem foldExtends (qs : List Request) (r : Registry) :
    r.classes <+: (qs.foldl Request.after r).classes := by
  induction qs generalizing r with
  | nil => exact List.prefix_rfl
  | cons q qs ih => exact (afterExtends r q).trans (ih _)

theorem runClasses (qs : List Request) : (run qs).classes = firstUses qs := by
  have step : ∀ (r : Registry) (seen : List HostClass), r.classes = seen.eraseDups →
      (qs.foldl Request.after r).classes = (seen ++ qs.filterMap Request.class?).eraseDups := by
    induction qs with
    | nil => intro r seen known; simpa using known
    | cons q qs ih =>
      intro r seen known
      cases named : q.class? with
      | none =>
        rw [List.foldl_cons, Request.afterRefused named, List.filterMap_cons_none named]
        exact ih r seen known
      | some c =>
        have next : (r.typeId c).2.classes = (seen ++ [c]).eraseDups := by
          rw [typeIdClasses, known]
          exact addedUsed seen c
        rw [List.foldl_cons, Request.afterClass named, List.filterMap_cons_some named]
        simpa using ih _ _ next
  exact step .empty [] rfl

theorem runAssigns {qs : List Request} {c : HostClass} {id : Nat} :
    (run qs).Assigns c id ↔ ∃ k, (firstUses qs)[k]? = some c ∧ id = k + 1 := by
  rw [assignsAt (runNodup qs), runClasses]

theorem assignsLater {qs : List Request} {c : HostClass} {id : Nat} (h : (run qs).Assigns c id)
    (more : List Request) : (run (qs ++ more)).Assigns c id := by
  rw [assignsAt (runNodup _)] at h ⊢
  obtain ⟨k, here, rfl⟩ := h
  refine ⟨k, ?_, rfl⟩
  rw [runAppend]
  obtain ⟨tail, same⟩ := foldExtends more (run qs)
  rw [← same, List.getElem?_append_left (List.getElem?_eq_some_iff.mp here).1, here]

def Wrapped (qs : List Request) (o : HostObject) (id : Nat) : Prop :=
  ∃ before rest, qs = before ++ .wrap (.object o) :: rest ∧
    ((wrap (.object o)).exec (run before)).1 = .ok (.foreign o id)

theorem Wrapped.assigned {qs : List Request} {o : HostObject} {id : Nat} (h : Wrapped qs o id) :
    (run qs).Assigns o.cls id := by
  obtain ⟨before, rest, rfl, made⟩ := h
  rw [execWrapObject] at made
  cases made
  have here : (run (before ++ [.wrap (.object o)])).Assigns o.cls ((run before).typeId o.cls).1 := by
    rw [runAppend]
    exact typeIdAssigns (runNodup before) o.cls
  simpa using assignsLater here rest

/-- An identity stands for one object, so that no two requests give it different classes. -/
def KeepsClasses (qs : List Request) : Prop :=
  ∀ o p, .wrap (.object o) ∈ qs → .wrap (.object p) ∈ qs → o.isSame p = true → o.cls = p.cls

theorem typeIdRun (qs : List Request) (q : Request) {c : HostClass} (named : q.class? = some c) :
    ((run qs).typeId c).2 = run (qs ++ [q]) := by
  rw [runAppend, List.foldl_cons, List.foldl_nil, Request.afterClass named]

theorem typeIdRunAssigns (qs : List Request) (q : Request) {c : HostClass}
    (named : q.class? = some c) : (run (qs ++ [q])).Assigns c ((run qs).typeId c).1 := by
  rw [← typeIdRun qs q named]
  exact typeIdAssigns (runNodup qs) c

theorem assignedExact {qs : List Request} {d : HostClass} {id : Nat}
    (assigned : (run qs).Assigns d id) (c : HostClass) : ((run qs).typeId c).1 = id ↔ d = c := by
  have own := assignsLater assigned [.typeId c]
  have asked := typeIdRunAssigns qs (.typeId c) rfl
  constructor
  · intro same
    subst same
    exact assignsInjective (runNodup _) own asked
  · intro same
    subst same
    exact congrArg Prod.fst (asked.symm.trans own)

theorem downcastExact {qs : List Request} {o : HostObject} {id : Nat} (made : Wrapped qs o id)
    (c : HostClass) : ((run qs).typeId c).1 = id ↔ o.cls = c :=
  assignedExact made.assigned c

theorem wrappersSame {qs : List Request} (kept : KeepsClasses qs) {o p : HostObject} {id other : Nat}
    (left : Wrapped qs o id) (right : Wrapped qs p other) :
    (Value.foreign o id).same (.foreign p other) = true ↔ o.identity = p.identity := by
  have sameId (object : o.isSame p = true) : id = other := by
    have cls : o.cls = p.cls := by
      obtain ⟨_, _, first, _⟩ := left
      obtain ⟨_, _, second, _⟩ := right
      exact kept o p (by simp [first]) (by simp [second]) object
    have here := left.assigned
    rw [cls] at here
    exact congrArg Prod.fst (here.symm.trans right.assigned)
  simp only [Value.same, Bool.and_eq_true, beq_iff_eq, HostObject.isSame] at sameId ⊢
  exact ⟨And.left, fun object => ⟨object, sameId object⟩⟩

/-- What holds of the registry, and of the wrappers made, after any requests. -/
structure Exact (qs : List Request) : Prop where
  ordered : ∀ c id, (run qs).Assigns c id ↔ ∃ k, (firstUses qs)[k]? = some c ∧ id = k + 1
  counted : ∀ id, (∃ c, (run qs).Assigns c id) ↔ 1 ≤ id ∧ id ≤ (firstUses qs).length
  named : ∀ c, (∃ id, (run qs).Assigns c id) ↔ ∃ q ∈ qs, q.class? = some c
  unshared : ∀ c d id, (run qs).Assigns c id → (run qs).Assigns d id → c = d
  stable : ∀ c id more, (run qs).Assigns c id → (run (qs ++ more)).Assigns c id
  asked : ∀ c, ∃ id, (run (qs ++ [.typeId c])).Assigns c id ∧
    (Exchange.typeId c).exec (run qs) = (.ok id, run (qs ++ [.typeId c]))
  wrapped : ∀ o, ∃ id, (run (qs ++ [.wrap (.object o)])).Assigns o.cls id ∧
    (wrap (.object o)).exec (run qs) = (.ok (.foreign o id), run (qs ++ [.wrap (.object o)]))
  refused : ∀ v, (∀ o, v ≠ .object o) →
    (wrap v).exec (run qs) = (.error (.lisp (.wrongType [.foreign] v)), run qs)
  unwrapped : ∀ o id, Wrapped qs o id → ∀ c, ∃ n, (run (qs ++ [.downcast c o id])).Assigns c n ∧
    (downcast c o id).exec (run qs) =
      (if o.cls = c then .ok (.object o)
        else .error (.lisp (.foreignMismatch n c.name (.foreign o id))),
        run (qs ++ [.downcast c o id]))
  same : ∀ o id p other, Wrapped qs o id → Wrapped qs p other →
    ((Value.foreign o id).same (.foreign p other) = true ↔ o.identity = p.identity)

theorem runExact (qs : List Request) (kept : KeepsClasses qs) : Exact qs where
  ordered _ _ := runAssigns
  counted id := by
    simp only [runAssigns]
    constructor
    · intro assigned
      obtain ⟨c, k, here, rfl⟩ := assigned
      obtain ⟨inside, _⟩ := List.getElem?_eq_some_iff.mp here
      omega
    · intro range
      obtain ⟨low, high⟩ := range
      exact ⟨_, id - 1, List.getElem?_eq_getElem (by omega), by omega⟩
  named c := by
    simp only [runAssigns]
    constructor
    · intro assigned
      obtain ⟨id, k, here, _⟩ := assigned
      have used := List.mem_eraseDups.mp (List.mem_of_getElem? here)
      exact List.mem_filterMap.mp used
    · intro used
      have member : c ∈ firstUses qs := List.mem_eraseDups.mpr (List.mem_filterMap.mpr used)
      obtain ⟨k, here⟩ := List.mem_iff_getElem?.mp member
      exact ⟨k + 1, k, here, rfl⟩
  unshared _ _ _ := assignsInjective (runNodup qs)
  stable _ _ more h := assignsLater h more
  asked c := by
    refine ⟨_, typeIdRunAssigns qs (.typeId c) rfl, ?_⟩
    rw [← typeIdRun qs (.typeId c) rfl]
    rfl
  wrapped o := by
    refine ⟨_, typeIdRunAssigns qs (.wrap (.object o)) rfl, ?_⟩
    rw [execWrapObject, typeIdRun qs (.wrap (.object o)) rfl]
  refused _ other := execWrapRefused other _
  unwrapped o id made c := by
    refine ⟨_, typeIdRunAssigns qs (.downcast c o id) rfl, ?_⟩
    rw [execDowncast, typeIdRun qs (.downcast c o id) rfl]
    simp only [downcastExact made c]
  same _ _ _ _ := wrappersSame kept

theorem parentRefused :
    let point : HostClass := .base 0 "Point" ["x", "y"]
    let o : HostObject := ⟨0, .derived 1 point "Point3" ["z"], []⟩
    let qs : List Request := [.typeId (.base 2 "Account" []), .wrap (.object o), .wrap .absent]
    KeepsClasses qs ∧ ((downcast point o 2).exec (run qs)).1 =
      .error (.lisp (.foreignMismatch 3 "Point" (.foreign o 2))) := by
  intro point o qs
  have kept : KeepsClasses qs := by
    intro p q left right _
    simp only [qs, List.mem_cons, List.not_mem_nil, or_false] at left right
    simp_all
  have made : Wrapped qs o 2 := ⟨[.typeId (.base 2 "Account" [])], [.wrap .absent], rfl, rfl⟩
  obtain ⟨n, assigned, answer⟩ := (runExact qs kept).unwrapped o 2 made point
  have third : n = 3 := (congrArg Prod.fst assigned).symm.trans rfl
  rw [answer, third]
  exact ⟨kept, rfl⟩

end Registry

end DynLisp
