import DynLisp.Library.Control
import DynLisp.Library.Globals
import DynLisp.Library.Stream
import DynLisp.Proofs.Guards
import DynLisp.Proofs.Occurrence

/-! What library functions give, and the faults they raise, for arguments whose opaque
parts satisfy `P`. Results and offending values keep to such parts, and a short argument
list is noticed only where the arity would have let it through. -/

namespace DynLisp

open Value (Within atomWithin withinList withinLambda)

def Fault.offending? : Fault → Option Value
  | .lisp (.notCallable v) | .lisp (.wrongType _ v) | .lisp (.foreignMismatch _ _ v) => some v
  | _ => none

/-- An argument that is not there, or not as many as are to be taken apart. -/
def HostFault.IsShortage : HostFault → Prop
  | .outOfRange | .unpackShort _ _ _ | .unpackLong _ => True
  | _ => False

/-- Argument counts that leave a primitive without an argument it takes, or with one too many to take
apart. -/
def Primitive.Lacks : Primitive → Nat → Prop
  | .define, n | .letIn, n | .lambdaOf, n | .quoteOf, n | .evaluate, n | .subtract, n | .divide, n
  | .equal, n | .negation, n | .head, n | .tail, n | .length, n | .reverse, n | .textLength, n
  | .symbolOf, n | .typeOf, n => n = 0
  | .conditional, n | .notEqual, n | .nth, n | .substring, n => n < 2
  | .power, n | .modulo, n | .cons, n | .map, n | .filter, n | .apply, n => n ≠ 2
  | _, _ => False

/-- The arity of the builtin asks for what its primitive takes. -/
def Builtin.Fits (f : Builtin) : Prop := ∀ n, f.arity.accepts n = true → ¬ f.primitive.Lacks n

theorem Arity.acceptsAmong (counts : List Nat) (n : Nat) :
    (among counts).accepts n = true ↔ n ∈ counts := by simp [among, accepts]

theorem Library.standardFits {f : Builtin} (standard : f ∈ builtins) : f.Fits := by
  have each : ∀ f ∈ builtins, f.Fits := by
    simp only [builtins, forms, functions, List.cons_append, List.nil_append, List.forall_mem_cons,
      Builtin.Fits, Primitive.Lacks, Arity.acceptsAmong]
    simp [Arity.accepts]
    constructor <;> intro n enough <;> omega
  exact each f standard

theorem Library.standardPrimitive {f : Builtin} (standard : f ∈ builtins) (h : HostFunction) :
    f.primitive ≠ .host h := by
  have each : ∀ f ∈ builtins, f.primitive ≠ .host h := by
    simp [builtins, forms, functions]
  exact each f standard

def Yields {α : Type} (F : Fault → Prop) (Q : α → Prop) : Except Fault α → Prop
  | .ok a => Q a
  | .error fault => F fault

namespace Yields

variable {α β : Type} {F : Fault → Prop} {Q : α → Prop} {R : β → Prop}

theorem bind {x : Except Fault α} {next : α → Except Fault β} (first : Yields F Q x)
    (rest : ∀ a, Q a → Yields F R (next a)) : Yields F R (x >>= next) := by
  cases x with
  | error fault => exact first
  | ok a => exact rest a first

theorem weaken {Q' : α → Prop} {x : Except Fault α} (h : Yields F Q x) (weaker : ∀ a, Q a → Q' a) :
    Yields F Q' x := by
  cases x with
  | error fault => exact h
  | ok a => exact weaker a h

theorem mapM {f : α → Except Fault β} {as : List α} (each : ∀ a ∈ as, Yields F R (f a)) :
    Yields F (fun bs => bs.length = as.length ∧ ∀ b ∈ bs, R b) (as.mapM f) := by
  induction as with
  | nil => exact ⟨rfl, nofun⟩
  | cons a as ih =>
    rw [List.mapM_cons]
    obtain ⟨here, there⟩ := List.forall_mem_cons.1 each
    exact bind here fun b first => bind (ih there) fun bs ⟨length, rest⟩ =>
      ⟨congrArg Nat.succ length, List.forall_mem_cons.2 ⟨first, rest⟩⟩

theorem foldlM {f : β → α → Except Fault β} (each : ∀ b a, R b → Yields F R (f b a)) {b : β}
    (start : R b) (as : List α) : Yields F R (as.foldlM f b) := by
  induction as generalizing b with
  | nil => exact start
  | cons a as ih =>
    rw [List.foldlM_cons]
    exact bind (each b a start) fun _ => ih

end Yields

/-- The faults of `F` include every error of the language whose offending value is within `P`. -/
structure Admits (P : Value → Prop) (F : Fault → Prop) : Prop where
  lisp : ∀ e, (∀ v, (Fault.lisp e).offending? = some v → v.Within P) → F (.lisp e)

/-- Arguments that a primitive may be called with. -/
structure Applied (P : Value → Prop) (F : Fault → Prop) (p : Primitive) (args : List Value) :
    Prop where
  admits : Admits P F
  within : ∀ v ∈ args, v.Within P
  lacks : p.Lacks args.length → ∀ fault : HostFault, fault.IsShortage → F (.host fault)

/-- Every fault but that of leaving the global scope. -/
def Fault.Inside (fault : Fault) : Prop := fault ≠ .host .globalScope

theorem Yields.inside {α : Type} {Q : α → Prop} {x : Except Fault α}
    (h : Yields Fault.Inside Q x) : x ≠ .error (.host .globalScope) := by
  rintro rfl
  exact h rfl

theorem Value.withinAny (v : Value) : v.Within fun _ => True := fun _ _ _ => trivial

theorem Admits.any : Admits (fun _ => True) Fault.Inside := ⟨fun _ _ => nofun⟩

theorem Fault.shortInside (fault : HostFault) (short : fault.IsShortage) : (host fault).Inside := by
  rintro ⟨⟩
  exact short

theorem Applied.any {p : Primitive} {args : List Value} :
    Applied (fun _ => True) Fault.Inside p args :=
  ⟨.any, fun v _ => v.withinAny, fun _ => Fault.shortInside⟩

variable {P : Value → Prop} {F : Fault → Prop}

namespace Value

theorem asListGives {v : Value} {items : List Value} (h : v.asList = .ok items) :
    v = .list items := by
  cases v with
  | list _ => cases h; rfl
  | _ => cases h

theorem asSymbolGives {v : Value} {name : String} (h : v.asSymbol = .ok name) : v = .symbol name := by
  cases v with
  | symbol _ => cases h; rfl
  | _ => cases h

theorem asNumberGives {v : Value} {x : Number} (h : v.asNumber = .ok x) : v = .number x := by
  cases v with
  | number _ => cases h; rfl
  | _ => cases h

theorem projectedAll {α : Type} {project : Value → Except Fault α} {back : α → Value}
    (gives : ∀ {v a}, project v = .ok a → v = back a) {vs : List Value} {as : List α}
    (h : vs.mapM project = .ok as) : vs = as.map back := by
  induction vs generalizing as with
  | nil => cases h; rfl
  | cons v vs ih =>
    rw [List.mapM_cons] at h
    cases first : project v with
    | error fault => rw [first] at h; cases h
    | ok a =>
      cases rest : vs.mapM project with
      | error fault => rw [first, rest] at h; cases h
      | ok others =>
        rw [first, rest] at h
        cases h
        rw [gives first, ih rest, List.map_cons]

variable {v : Value} (admits : Admits P F) (within : v.Within P)
include admits within

theorem yieldsMismatch {α : Type} {Q : α → Prop} (expected : List Descriptor) :
    Yields F Q (v.mismatch expected : Except Fault α) := by
  refine admits.lisp _ fun w offending => ?_
  cases offending
  exact within

theorem yieldsNumber : Yields F (fun _ => True) v.asNumber := by
  cases v with
  | number n => trivial
  | _ => exact yieldsMismatch admits within _

theorem yieldsBool : Yields F (fun _ => True) v.asBool := by
  cases v with
  | bool b => trivial
  | _ => exact yieldsMismatch admits within _

theorem yieldsText : Yields F (fun _ => True) v.asText := by
  cases v with
  | text _ | derivedText _ _ => trivial
  | _ => exact yieldsMismatch admits within _

theorem yieldsSymbol : Yields F (fun _ => True) v.asSymbol := by
  cases v with
  | symbol x => trivial
  | _ => exact yieldsMismatch admits within _

theorem yieldsList : Yields F (fun items => ∀ w ∈ items, w.Within P) v.asList := by
  cases v with
  | list items => exact withinList.1 within
  | _ => exact yieldsMismatch admits within _

theorem yieldsListOrNil : Yields F (fun items => ∀ w ∈ items, w.Within P) v.asListOrNil := by
  cases v with
  | list items => exact withinList.1 within
  | nil => exact nofun
  | _ => exact yieldsMismatch admits within _

/-- A number that is not whole is refused before it is converted. -/
theorem yieldsInteger : Yields F (fun _ => True) v.asInteger :=
  (yieldsNumber admits within).bind fun x _ => by
    split
    · obtain ⟨i, converted⟩ := Number.integerConverts ‹_›
      rw [converted]
      trivial
    · exact yieldsMismatch admits within _

end Value

theorem Number.yieldsTruncate (infinite : F (.host .integerOfInfinity))
    (undefined : F (.host .integerOfNaN)) (x : Number) : Yields F (fun _ => True) x.truncate := by
  unfold Number.truncate
  split
  · trivial
  · split
    · exact undefined
    · exact infinite

open Value

namespace Library

section Shortage

variable {α : Type} {Q : α → Prop} (short : ∀ fault : HostFault, fault.IsShortage → F (.host fault))
include short

theorem yieldsMissing : Yields F Q (missing : Except Fault α) := short _ trivial

theorem yieldsNoFirst : Yields F Q (noFirst : Except Fault α) := short _ trivial

theorem yieldsNoPair (got : Nat) : Yields F Q (noPair got : Except Fault α) := by
  refine short _ ?_
  split <;> trivial

end Shortage

theorem yieldsAdd (sums : ∀ cause, F (.host (.sum cause))) (xs : List Number) :
    Yields F (fun _ => True) (add xs) := by
  unfold add
  split
  · trivial
  · exact sums _

theorem yieldsSubtract {xs : List Number}
    (lacks : xs.length = 0 → ∀ fault : HostFault, fault.IsShortage → F (.host fault)) :
    Yields F (fun _ => True) (subtract xs) := by
  unfold subtract
  split
  · exact yieldsNoFirst (lacks rfl)
  · trivial
  · trivial

section Numbers

variable (admits : Admits P F)
include admits

theorem yieldsDivideBy (x y : Number) : Yields F (fun _ => True) (divideBy x y) := by
  unfold divideBy
  split
  · exact admits.lisp _ nofun
  · trivial

theorem yieldsDivide {xs : List Number}
    (lacks : xs.length = 0 → ∀ fault : HostFault, fault.IsShortage → F (.host fault)) :
    Yields F (fun _ => True) (divide xs) := by
  unfold divide
  split
  · exact yieldsNoFirst (lacks rfl)
  · exact yieldsDivideBy admits _ _
  · exact Yields.foldlM (fun x y _ => yieldsDivideBy admits x y) trivial _

theorem yieldsPower {xs : List Number}
    (lacks : xs.length ≠ 2 → ∀ fault : HostFault, fault.IsShortage → F (.host fault)) :
    Yields F (fun _ => True) (power xs) := by
  match xs with
  | [base, exponent] =>
    simp only [power]
    split
    · trivial
    · exact admits.lisp _ nofun
  | [] | [_] | _ :: _ :: _ :: _ => exact yieldsNoPair (lacks (by simp)) _

theorem yieldsModulo {xs : List Number}
    (lacks : xs.length ≠ 2 → ∀ fault : HostFault, fault.IsShortage → F (.host fault)) :
    Yields F (fun _ => True) (modulo xs) := by
  match xs with
  | [x, d] =>
    simp only [modulo]
    split
    · exact admits.lisp _ nofun
    · trivial
  | [] | [_] | _ :: _ :: _ :: _ => exact yieldsNoPair (lacks (by simp)) _

end Numbers

variable {args : List Value}

theorem yieldsNumbers (admits : Admits P F) (within : ∀ v ∈ args, v.Within P)
    {f : List Number → Except Fault Number}
    (each : ∀ xs, xs.length = args.length → Yields F (fun _ => True) (f xs)) :
    Yields F (fun _ => True) (do f (← args.mapM asNumber)) :=
  (Yields.mapM fun v member => yieldsNumber admits (within v member)).bind
    fun xs ⟨length, _⟩ => each xs length

theorem yieldsCompared (admits : Admits P F) (within : ∀ v ∈ args, v.Within P)
    (r : Number → Number → Bool) : Yields F (·.Within P) (compared r args) :=
  (Yields.mapM fun v member => yieldsNumber admits (within v member)).bind
    fun _ _ => atomWithin trivial

theorem yieldsEqual (call : Applied P F .equal args) : Yields F (·.Within P) (equal args) := by
  cases args with
  | nil => exact yieldsMissing (call.lacks rfl)
  | cons v vs => exact atomWithin trivial

theorem yieldsNotEqual (call : Applied P F .notEqual args) :
    Yields F (·.Within P) (notEqual args) := by
  match args with
  | v :: w :: _ => exact atomWithin trivial
  | [] | [_] => exact yieldsMissing (call.lacks (by simp [Primitive.Lacks]))

theorem yieldsConjunction (call : Applied P F .conjunction args) :
    Yields F (·.Within P) (conjunction args) :=
  (Yields.mapM fun v member => yieldsBool call.admits (call.within v member)).bind
    fun _ _ => atomWithin trivial

theorem yieldsDisjunction (call : Applied P F .disjunction args) :
    Yields F (·.Within P) (disjunction args) :=
  (Yields.mapM fun v member => yieldsBool call.admits (call.within v member)).bind
    fun _ _ => atomWithin trivial

theorem yieldsNegation (call : Applied P F .negation args) :
    Yields F (·.Within P) (negation args) := by
  cases args with
  | nil => exact yieldsMissing (call.lacks rfl)
  | cons v _ =>
    exact (yieldsBool call.admits (call.within v (.head _))).bind fun _ _ => atomWithin trivial

theorem yieldsCons (call : Applied P F .cons args) : Yields F (·.Within P) (cons args) := by
  match args with
  | [v, vs] =>
    have ⟨here, there⟩ := List.forall_mem_cons.1 call.within
    exact (yieldsListOrNil call.admits (there vs (.head _))).bind fun items inside =>
      withinList.2 (List.forall_mem_cons.2 ⟨here, inside⟩)
  | [] | [_] | _ :: _ :: _ :: _ => exact yieldsNoPair (call.lacks (by simp [Primitive.Lacks])) _

theorem yieldsNonEmpty {v : Value} (admits : Admits P F) (within : v.Within P) :
    Yields F (fun items => items.isEmpty = false ∧ ∀ w ∈ items, w.Within P) (nonEmpty v) :=
  (yieldsList admits within).bind fun items inside => by
    split
    · exact admits.lisp _ nofun
    · exact ⟨Bool.not_eq_true _ ▸ ‹_›, inside⟩

theorem yieldsHead (call : Applied P F .head args) : Yields F (·.Within P) (head args) := by
  cases args with
  | nil => exact yieldsMissing (call.lacks rfl)
  | cons v _ =>
    refine (yieldsNonEmpty call.admits (call.within v (.head _))).bind fun items ⟨first, inside⟩ => ?_
    obtain ⟨item, member, found⟩ := accessFirst first
    rw [found]
    exact inside item member

theorem yieldsTail (call : Applied P F .tail args) : Yields F (·.Within P) (tail args) := by
  cases args with
  | nil => exact yieldsMissing (call.lacks rfl)
  | cons v _ =>
    exact (yieldsNonEmpty call.admits (call.within v (.head _))).bind fun items ⟨_, inside⟩ =>
      withinList.2 fun w member => inside w (List.mem_of_mem_tail member)

theorem yieldsLength (call : Applied P F .length args) : Yields F (·.Within P) (length args) := by
  cases args with
  | nil => exact yieldsMissing (call.lacks rfl)
  | cons v _ =>
    have within := call.within v (.head _)
    cases v with
    | list _ | text _ | derivedText _ _ => exact atomWithin trivial
    | _ => exact yieldsMismatch call.admits within _

/-- The two guards leave a position that an item has. -/
theorem yieldsNth (call : Applied P F .nth args) : Yields F (·.Within P) (nth args) := by
  match args with
  | position :: v :: _ =>
    have ⟨index, there⟩ := List.forall_mem_cons.1 call.within
    refine (yieldsList call.admits (there v (.head _))).bind fun items inside =>
      (yieldsNumber call.admits index).bind fun x _ => ?_
    cases integral : x.isInteger with
    | false => exact yieldsMismatch call.admits index _
    | true =>
      cases below : x.isBelow items.length with
      | false => exact call.admits.lisp _ nofun
      | true =>
        obtain ⟨item, member, found⟩ := accessGuarded integral below
        have taken : Yields F (·.Within P) (do access items (← x.truncate)) :=
          found ▸ inside item member
        exact taken
  | [] | [_] => exact yieldsMissing (call.lacks (by simp [Primitive.Lacks]))

theorem yieldsAppend (call : Applied P F .append args) : Yields F (·.Within P) (append args) :=
  (Yields.mapM fun v member => yieldsListOrNil call.admits (call.within v member)).bind
    fun lists ⟨_, inside⟩ => withinList.2 fun v member => by
      obtain ⟨items, among, here⟩ := List.mem_flatten.1 member
      exact inside items among v here

theorem yieldsReverse (call : Applied P F .reverse args) : Yields F (·.Within P) (reverse args) := by
  cases args with
  | nil => exact yieldsMissing (call.lacks rfl)
  | cons v _ =>
    exact (yieldsList call.admits (call.within v (.head _))).bind fun items inside =>
      withinList.2 fun w member => inside w (List.mem_reverse.1 member)

section Printing

variable {limit : Nat} (deep : ∀ v ∈ args, limit < v.nesting → F (.host .tooDeep))
include deep

theorem yieldsShown (text : Value → String) :
    Yields F (fun _ => True) (args.mapM (shown limit text)) := by
  have each : ∀ v ∈ args, Yields F (fun _ => True) (shown limit text v) := fun v member => by
    unfold shown
    split
    · trivial
    · exact deep v member (Nat.lt_of_not_le ‹_›)
  exact (Yields.mapM each).weaken fun _ _ => trivial

theorem yieldsConcat : Yields F (·.Within P) (concat limit args) :=
  (yieldsShown deep display).bind fun _ _ => atomWithin trivial

end Printing

theorem yieldsTextLength (call : Applied P F .textLength args) :
    Yields F (·.Within P) (textLength args) := by
  cases args with
  | nil => exact yieldsMissing (call.lacks rfl)
  | cons v _ =>
    exact (yieldsText call.admits (call.within v (.head _))).bind fun _ _ => atomWithin trivial

theorem yieldsSubstring (call : Applied P F .substring args) :
    Yields F (·.Within P) (substring args) := by
  match args with
  | v :: start :: rest =>
    have ⟨string, bounds⟩ := List.forall_mem_cons.1 call.within
    refine (yieldsText call.admits string).bind fun _ _ =>
      (Yields.mapM fun w member => yieldsInteger call.admits (bounds w member)).bind
        fun integers ⟨count, _⟩ => ?_
    cases integers with
    | nil => cases count
    | cons => exact atomWithin trivial
  | [] => exact yieldsMissing (call.lacks (by simp [Primitive.Lacks]))
  | [v] =>
    exact (yieldsText call.admits (call.within v (.head _))).bind fun _ _ =>
      yieldsMissing (call.lacks (by simp [Primitive.Lacks]))

theorem yieldsSymbolOf (call : Applied P F .symbolOf args)
    (uninterned : ∀ s typeName rest, args = .derivedText s typeName :: rest →
      F (.host (.uninterned typeName))) : Yields F (·.Within P) (symbolOf args) := by
  cases args with
  | nil => exact yieldsMissing (call.lacks rfl)
  | cons v rest =>
    have within := call.within v (.head _)
    cases v with
    | text s => exact atomWithin trivial
    | derivedText s typeName => exact uninterned s typeName rest rfl
    | _ => exact yieldsMismatch call.admits within _

theorem yieldsTypeOf (call : Applied P F .typeOf args) : Yields F (·.Within P) (typeOf args) := by
  cases args with
  | nil => exact yieldsMissing (call.lacks rfl)
  | cons v _ =>
    simp only [typeOf]
    split
    · exact atomWithin trivial
    · exact yieldsMismatch call.admits (call.within v (.head _)) _

theorem yieldsLambdaOf (call : Applied P F .lambdaOf args) :
    Yields F (·.Within P) (lambdaOf args) := by
  cases args with
  | nil => exact yieldsNoFirst (call.lacks rfl)
  | cons params body =>
    have ⟨names, forms⟩ := List.forall_mem_cons.1 call.within
    exact (yieldsList call.admits names).bind fun params inside =>
      (Yields.mapM fun v member => yieldsSymbol call.admits (inside v member)).bind fun _ _ =>
        withinLambda.2 forms

theorem yieldsQuoteOf (call : Applied P F .quoteOf args) : Yields F (·.Within P) (quoteOf args) := by
  cases args with
  | nil => exact yieldsMissing (call.lacks rfl)
  | cons form _ => exact call.within form (.head _)

theorem withinSequence (within : ∀ v ∈ args, v.Within P) : (sequence args).Within P := by
  unfold sequence
  cases last : args.getLast? with
  | none => exact atomWithin trivial
  | some v => exact within v (List.mem_of_getLast? last)

theorem yieldsExitCode (call : Applied P F .exit args) (infinite : F (.host .integerOfInfinity))
    (undefined : F (.host .integerOfNaN)) : Yields F (fun _ => True) (exitCode args) := by
  cases args with
  | nil => trivial
  | cons v _ =>
    exact (yieldsNumber call.admits (call.within v (.head _))).bind
      fun x _ => x.yieldsTruncate infinite undefined

end Library

end DynLisp
