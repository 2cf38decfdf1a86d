import DynLisp.Proofs.Calls

/-! Equality is an equivalence. Each value has a core, in which all that equality does
not look at has been given one fixed form; equal values are the values of one core. So
reflexivity, symmetry and transitivity are those of `=`. -/

namespace DynLisp

namespace Number

/-- A zero loses its sign. -/
def core : Number → Number
  | finite negative rank => finite (negative && rank.val != 0) rank
  | x => x

theorem signedEqual {s t : Bool} {r q : Nat} :
    (if s = true then -(r : Int) else r) = (if t = true then -(q : Int) else q) ↔
      (s && r != 0) = (t && q != 0) ∧ r = q := by
  cases s <;> cases t <;> cases r <;> cases q <;> simp <;> omega

theorem sameCore (x y : Number) : x.same y = true ↔ x.core = y.core := by
  have beyond (r : Fin rankLimit) : rankLimit ≠ r.val := Nat.ne_of_gt r.isLt
  have positive : (rankLimit != 0) = true := rfl
  cases x with
  | nan m => cases y <;> simp [same, core, position?]
  | infinite s => cases y <;> simp [same, core, position?, signedEqual, beyond, positive]
  | finite s r =>
    cases y with
    | nan n => simp [same, core, position?]
    | infinite t => simp [same, core, position?, signedEqual, (beyond r).symm]
    | finite t q => simp [same, core, position?, signedEqual, Fin.val_inj]

end Number

def Builtin.core (f : Builtin) : Builtin := ⟨"", f.primitive, f.arity, false⟩

def HostObject.core (o : HostObject) : HostObject := ⟨o.identity, .base 0 "" [], []⟩

namespace Value

mutual

/-- What has an identity keeps that, and what has a structure keeps the cores of its parts. -/
def core : Value → Value
  | number x => number x.core
  | list items => list (coreAll items)
  | quote v => quote v.core
  | builtin f => builtin f.core
  | lambda params body => lambda params (coreAll body)
  | foreign o typeId => foreign o.core typeId
  | derivedText s _ => text s
  | tuple _ mark => tuple [] mark
  | object o => object o.core
  | stranger typeName _ mark => stranger typeName "" mark
  | hostQuote _ mark => hostQuote nil mark
  | v => v

def coreAll : List Value → List Value
  | [] => []
  | v :: vs => v.core :: coreAll vs

end

mutual

theorem sameCore : (v w : Value) → (v.same w = true ↔ v.core = w.core)
  | number x, w => by cases w <;> simp [same, core, Number.sameCore]
  | list vs, w => by cases w <;> simp [same, core, sameAllCore vs]
  | quote v, w => by cases w <;> simp [same, core, sameCore v]
  | builtin f, w => by cases w <;> simp [same, core, Builtin.same, Builtin.core]
  | lambda params vs, w => by cases w <;> simp [same, core, sameAllCore vs]
  | foreign o _, w | object o, w => by
    cases w <;> simp [same, core, HostObject.isSame, HostObject.core]
  | bool _, w | symbol _, w | text _, w | derivedText _ _, w | nil, w | type _, w => by
    cases w <;> simp [same, core]
  | absent, w | integer _ _, w | tuple _ _, w | stranger _ _ _, w | hostQuote _ _, w => by
    cases w <;> simp [same, core]

theorem sameAllCore : (vs ws : List Value) → (sameAll vs ws = true ↔ coreAll vs = coreAll ws)
  | [], ws => by cases ws <;> simp [sameAll, coreAll]
  | v :: vs, ws => by cases ws <;> simp [sameAll, coreAll, sameCore v, sameAllCore vs]

end

theorem coreDescriptor (v : Value) : v.core.descriptor? = v.descriptor? := by
  induction v using descriptor?.induct with
  | case8 v ih => simp only [core, descriptor?, ih]
  | case13 v => cases v <;> first | rfl | simp_all
  | _ => rfl

/-- Comparing with the first one is enough. -/
theorem allSame (v : Value) (vs : List Value) :
    vs.all v.same = true ↔ ∀ a ∈ v :: vs, ∀ b ∈ v :: vs, a.same b = true := by
  simp only [List.all_eq_true, sameCore]
  constructor
  · intro first
    have cores : ∀ a ∈ v :: vs, v.core = a.core := List.forall_mem_cons.2 ⟨rfl, first⟩
    exact fun a one b other => (cores a one).symm.trans (cores b other)
  · exact fun pairwise b member => pairwise v (.head _) b (.tail _ member)

end Value

open Evaluator Run

theorem evalEqual (host : Host) (n : Nat) (v : Value) (vs : List Value) :
    (atDepth host (n + 2)).eval (.list (Library.named "=" :: (v :: vs).map .quote)) =
      pure (.bool (vs.all v.same)) := by
  refine (evalBuiltinQuoted host n rfl (v :: vs)).trans ?_
  rw [runBuiltin, if_pos (by simp [Arity.accepts])]
  rfl

/-- Equality is an equivalence within the values of one type, so that the equality of several values
is that of any two of them, in whatever order they are given. A NaN is equal to itself alone, and so
are the functions of builtins and the objects that are wrapped. -/
theorem sameIsEquivalence :
    Equivalence (fun v w : Value => v.same w = true) ∧
    (∀ v w : Value, v.same w = true → v.descriptor? = w.descriptor?) ∧
    ((∀ i j, (Value.number (.nan i)).same (.number (.nan j)) = true ↔ i = j) ∧
      (∀ f g : Builtin, (Value.builtin f).same (.builtin g) = true ↔
        f.primitive = g.primitive ∧ f.arity = g.arity) ∧
      ∀ o p i j, (Value.foreign o i).same (.foreign p j) = true ↔
        o.identity = p.identity ∧ i = j) ∧
    ∀ (host : Host) (n : Nat) (v : Value) (vs : List Value), ∃ answer : Bool,
      (answer = true ↔ ∀ a ∈ v :: vs, ∀ b ∈ v :: vs, a.same b = true) ∧
      ∀ others : List Value, others.Perm (v :: vs) →
        (atDepth host (n + 2)).eval (.list (Library.named "=" :: others.map .quote)) =
          pure (.bool answer) := by
  refine ⟨⟨?_, ?_, ?_⟩, ?_, ⟨?_, ?_, ?_⟩, ?_⟩
  · exact fun v => (v.sameCore v).2 rfl
  · exact fun {v w} same => (w.sameCore v).2 ((v.sameCore w).1 same).symm
  · exact fun {u v w} left right =>
      (u.sameCore w).2 (((u.sameCore v).1 left).trans ((v.sameCore w).1 right))
  · intro v w same
    rw [← v.coreDescriptor, ← w.coreDescriptor, (v.sameCore w).1 same]
  · simp [Value.same, Number.same]
  · simp [Value.same, Builtin.same]
  · simp [Value.same, HostObject.isSame]
  · intro host n v vs
    refine ⟨vs.all v.same, v.allSame vs, fun others reordered => ?_⟩
    cases others with
    | nil => cases reordered.nil_eq
    | cons w ws =>
      have alike : ws.all w.same = vs.all v.same := by
        rw [Bool.eq_iff_iff, w.allSame, v.allSame]
        simp only [reordered.mem_iff]
      rw [evalEqual, alike]

/-- The two zeros are equal also inside of lists, and a NaN is equal to itself. -/
theorem zerosEqualInside :
    let v : Value := .list [.number (.nan 7), .quote (.number Number.zero)]
    let w : Value := .list [.number (.nan 7), .quote (.number Number.zero.neg)]
    v.same w = true ∧ v.descriptor? = w.descriptor? ∧
      (atDepth (.bare 400 400) 2).eval (.list [Library.named "=", .quote w, .quote v]) =
        pure (.bool true) := by
  intro v w
  have same : v.same w = true := by decide
  obtain ⟨equivalence, typed, _, ordered⟩ := sameIsEquivalence
  obtain ⟨answer, pairwise, gives⟩ := ordered (.bare 400 400) 0 v [w]
  have yes : answer = true := by
    refine pairwise.2 ?_
    simp only [List.forall_mem_cons]
    exact ⟨⟨equivalence.refl v, same, List.forall_mem_nil _⟩,
      ⟨equivalence.symm same, equivalence.refl w, List.forall_mem_nil _⟩, List.forall_mem_nil _⟩
  exact ⟨same, typed v w same, yes ▸ gives [w, v] (.swap v w [])⟩

end DynLisp
