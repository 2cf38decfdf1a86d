import DynLisp.Proofs.Occurrence
import DynLisp.Proofs.Registry
import DynLisp.Proofs.Rounding

/-! What the host hands over. Lists and tuples are converted item by item, objects of registered
classes are wrapped, and an object of any other kind is refused. An integer beyond the range of
numbers is refused as well, though not as a value of a wrong type. Quotes are let in as they are,
with whatever they hold. So what comes in has a type at every depth, as long as this holds of the
quotes that were handed over. -/

namespace DynLisp

theorem Number.ofIntFinite (n : Int) : (ofInt n).isFinite = true ↔ n.natAbs < integerLimit := by
  rw [← ofNatFinite]
  unfold ofInt ofNat ofRatio ofRank
  split <;> rfl

namespace Value

/-- The items of lists and the payloads of quotes are inside, at any depth. -/
inductive Inside (x : Value) : Value → Prop where
  | here : Inside x x
  | item {v items} (member : v ∈ items) (inside : Inside x v) : Inside x (.list items)
  | payload {v} (inside : Inside x v) : Inside x (.quote v)

def InUnion (v : Value) : Prop := ∀ x, Inside x v → ∃ d, x.descriptor? = some d

/-- Handed over by itself, or in lists and tuples. -/
inductive Given (x : Value) : Value → Prop where
  | here : Given x x
  | item {v items} (member : v ∈ items) (inside : Given x v) : Given x (.list items)
  | entry {v items mark} (member : v ∈ items) (inside : Given x v) : Given x (.tuple items mark)

inductive Refused : Value → Fault → Prop where
  | stranger (typeName shown mark) : Refused (.stranger typeName shown mark)
      (.lisp (.wrongType [.foreign] (.stranger typeName shown mark)))
  | integer {n mark} (beyond : Number.integerLimit ≤ n.natAbs) :
      Refused (.integer n mark) (.host .integerTooLarge)

def IsQuote : Value → Prop
  | quote _ | hostQuote _ _ => True
  | _ => False

def IsSequence : Value → Prop
  | list _ | tuple _ _ => True
  | _ => False

variable {v w x : Value} {items : List Value}

@[simp] theorem inUnionList : (list items).InUnion ↔ ∀ v ∈ items, v.InUnion := by
  constructor
  · exact fun h v member x inside => h x (.item member inside)
  · intro h x inside
    cases inside with
    | here => exact ⟨_, rfl⟩
    | item member inside => exact h _ member x inside

@[simp] theorem inUnionQuote : (quote v).InUnion ↔ v.InUnion := by
  constructor
  · exact fun h x inside => h x (.payload inside)
  · intro h x inside
    cases inside with
    | here =>
      obtain ⟨d, typed⟩ := h v .here
      exact ⟨.quoteOf d, by simp [descriptor?, typed]⟩
    | payload inside => exact h x inside

@[simp] theorem givenList : x.Given (list items) ↔ x = list items ∨ ∃ v ∈ items, x.Given v := by
  constructor
  · intro h
    cases h with
    | here => exact .inl rfl
    | item member inside => exact .inr ⟨_, member, inside⟩
  · rintro (rfl | ⟨v, member, inside⟩)
    · exact .here
    · exact .item member inside

@[simp] theorem givenTuple {mark : Nat} :
    x.Given (tuple items mark) ↔ x = tuple items mark ∨ ∃ v ∈ items, x.Given v := by
  constructor
  · intro h
    cases h with
    | here => exact .inl rfl
    | entry member inside => exact .inr ⟨_, member, inside⟩
  · rintro (rfl | ⟨v, member, inside⟩)
    · exact .here
    · exact .entry member inside

theorem givenAlone (single : ¬ v.IsSequence) : x.Given v ↔ x = v := by
  constructor
  · intro given
    cases given with
    | here => rfl
    | item | entry => exact absurd trivial single
  · rintro rfl
    exact .here

end Value

namespace Exchange

variable {α β : Type}

theorem execBind (x : Exchange α) (next : α → Exchange β) (r : Registry) :
    (x >>= next).exec r =
      match x.exec r with
      | (.ok a, after) => (next a).exec after
      | (.error fault, after) => (.error fault, after) := by
  simp only [exec, ExceptT.run_bind, StateT.run_bind]
  show (match x.run.run r with | (a, s) => _) = _
  rcases x.run.run r with ⟨_ | _, _⟩ <;> rfl

theorem execBindOk {x : Exchange α} {next : α → Exchange β} {r after : Registry} {a : α}
    (first : x.exec r = (.ok a, after)) : (x >>= next).exec r = (next a).exec after := by
  rw [execBind, first]

theorem execBindError {x : Exchange α} {next : α → Exchange β} {r after : Registry} {fault : Fault}
    (first : x.exec r = (.error fault, after)) :
    (x >>= next).exec r = (.error fault, after) := by
  rw [execBind, first]

/-- How the conversion of what is handed over may end. -/
def Enters (v : Value) : Except Fault Value → Prop
  | .ok w => (∀ x : Value, ∀ fault, x.Given v → ¬ x.Refused fault) ∧
      (w.InUnion ↔ ∀ q : Value, q.Given v → q.IsQuote → q.InUnion)
  | .error fault => ∃ x : Value, x.Given v ∧ x.Refused fault

def EnterAll (vs : List Value) : Except Fault (List Value) → Prop
  | .ok ws => (∀ v ∈ vs, ∀ x : Value, ∀ fault, x.Given v → ¬ x.Refused fault) ∧
      ((∀ w ∈ ws, w.InUnion) ↔ ∀ v ∈ vs, ∀ q : Value, q.Given v → q.IsQuote → q.InUnion)
  | .error fault => ∃ v ∈ vs, ∃ x : Value, x.Given v ∧ x.Refused fault

theorem entersAlone {v w : Value} (single : ¬ v.IsSequence) (accepted : ∀ fault, ¬ v.Refused fault)
    (quoted : v.IsQuote → w = v) (other : ¬ v.IsQuote → w.InUnion) : Enters v (.ok w) := by
  constructor
  · intro x fault given
    rw [(Value.givenAlone single).1 given]
    exact accepted fault
  · simp only [Value.givenAlone single, forall_eq]
    by_cases isQuote : v.IsQuote
    · simp only [quoted isQuote, isQuote, true_imp_iff]
    · exact iff_of_true (other isQuote) fun h => absurd h isQuote

theorem EnterAll.sequence {vs : List Value} {ended : Except Fault (List Value)}
    (h : EnterAll vs ended) {whole : Value} (ordinary : ¬ whole.IsQuote)
    (accepted : ∀ fault, ¬ whole.Refused fault)
    (parts : ∀ x : Value, x.Given whole ↔ x = whole ∨ ∃ v ∈ vs, x.Given v) :
    Enters whole (ended.map .list) := by
  cases ended with
  | error fault =>
    obtain ⟨v, member, x, given, refused⟩ := h
    exact ⟨x, (parts x).2 (.inr ⟨v, member, given⟩), refused⟩
  | ok ws =>
    obtain ⟨fine, union⟩ := h
    constructor
    · intro x fault given
      rcases (parts x).1 given with rfl | ⟨v, member, inside⟩
      · exact accepted fault
      · exact fine v member x fault inside
    · rw [Value.inUnionList, union]
      constructor
      · intro quotes q given isQuote
        rcases (parts q).1 given with rfl | ⟨v, member, inside⟩
        · exact absurd isQuote ordinary
        · exact quotes v member q inside isQuote
      · exact fun quotes v member q given => quotes q ((parts q).2 (.inr ⟨v, member, given⟩))

theorem toLispList (items : List Value) (r : Registry) :
    ((toLisp (.list items)).exec r).1 = ((toLispAll items).exec r).1.map .list := by
  rw [toLisp, execBind]
  rcases (toLispAll items).exec r with ⟨_ | _, _⟩ <;> rfl

theorem toLispTuple (items : List Value) (mark : Nat) (r : Registry) :
    ((toLisp (.tuple items mark)).exec r).1 = ((toLispAll items).exec r).1.map .list := by
  rw [toLisp, execBind]
  rcases (toLispAll items).exec r with ⟨_ | _, _⟩ <;> rfl

theorem toLispInteger (n : Int) (mark : Nat) (r : Registry) :
    ((toLisp (.integer n mark)).exec r).1 =
      if (Number.ofInt n).isFinite then .ok (.number (.ofInt n))
      else .error (.host .integerTooLarge) := by
  rw [toLisp]
  split <;> rfl

mutual

theorem toLispEnters : (v : Value) → (r : Registry) → Enters v ((toLisp v).exec r).1
  | .list items, r => by
    rw [toLispList]
    refine (toLispAllEnter items r).sequence id ?_ fun x => Value.givenList
    rintro fault ⟨⟩
  | .tuple items mark, r => by
    rw [toLispTuple]
    refine (toLispAllEnter items r).sequence id ?_ fun x => Value.givenTuple
    rintro fault ⟨⟩
  | .integer n mark, r => by
    rw [toLispInteger]
    split
    · rename_i small
      rw [Number.ofIntFinite] at small
      refine entersAlone id ?_ False.elim ?_
      · rintro fault ⟨⟩
        omega
      · rintro _ x ⟨⟩
        exact ⟨_, rfl⟩
    · rename_i beyond
      rw [Number.ofIntFinite] at beyond
      exact ⟨_, .here, .integer (Nat.le_of_not_lt beyond)⟩
  | .object o, r => by
    rw [toLisp, execWrapObject]
    refine entersAlone id ?_ False.elim ?_
    · rintro fault ⟨⟩
    · rintro _ x ⟨⟩
      exact ⟨_, rfl⟩
  | .stranger typeName shown mark, r => ⟨_, .here, .stranger typeName shown mark⟩
  | .quote v, r | .hostQuote v _, r => by
    refine entersAlone id ?_ (fun _ => rfl) (absurd trivial)
    rintro fault ⟨⟩
  | .absent, r | .number x, r | .bool _, r | .symbol _, r | .text _, r | .derivedText _ _, r
  | .nil, r | .builtin _, r | .lambda _ _, r | .type _, r | .foreign _ _, r => by
    refine entersAlone id ?_ False.elim ?_
    · rintro fault ⟨⟩
    · rintro _ x ⟨⟩
      exact ⟨_, rfl⟩

theorem toLispAllEnter : (vs : List Value) → (r : Registry) → EnterAll vs ((toLispAll vs).exec r).1
  | [], r => ⟨List.forall_mem_nil _, iff_of_true (List.forall_mem_nil _) (List.forall_mem_nil _)⟩
  | v :: vs, r => by
    have first := toLispEnters v r
    rw [toLispAll]
    rcases ended : (toLisp v).exec r with ⟨fault | w, after⟩ <;> rw [ended] at first
    · obtain ⟨x, given, refused⟩ := first
      rw [execBindError ended]
      exact ⟨v, .head _, x, given, refused⟩
    · have rest := toLispAllEnter vs after
      rw [execBindOk ended]
      rcases others : (toLispAll vs).exec after with ⟨fault | ws, last⟩ <;> rw [others] at rest
      · obtain ⟨u, member, x, given, refused⟩ := rest
        rw [execBindError others]
        exact ⟨u, .tail _ member, x, given, refused⟩
      · rw [execBindOk others]
        refine ⟨List.forall_mem_cons.2 ⟨first.1, rest.1⟩, ?_⟩
        rw [List.forall_mem_cons, List.forall_mem_cons, first.2, rest.2]

end

/-- Only strangers and integers out of range are refused, and whatever contains one of these. All
else comes in, and it has a type at every depth exactly if the quotes that were handed over have. -/
theorem handedOverEnters (o : Value) (r : Registry) :
    let ended := ((toLisp o).exec r).1
    ((∃ v, ended = .ok v) ↔ ∀ x : Value, ∀ fault, x.Given o → ¬ x.Refused fault) ∧
      (∀ fault, ended = .error fault → ∃ x : Value, x.Given o ∧ x.Refused fault) ∧
      ∀ v, ended = .ok v → (v.InUnion ↔ ∀ q : Value, q.Given o → q.IsQuote → q.InUnion) := by
  intro ended
  have enters : Enters o ended := toLispEnters o r
  generalize ended = given at enters
  cases given with
  | error fault =>
    obtain ⟨x, inside, refused⟩ := enters
    refine ⟨iff_of_false ?_ fun none => none x fault inside refused, ?_, ?_⟩
    · rintro ⟨v, ⟨⟩⟩
    · rintro _ ⟨⟩
      exact ⟨x, inside, refused⟩
    · rintro v ⟨⟩
  | ok v =>
    refine ⟨iff_of_true ⟨v, rfl⟩ enters.1, ?_, ?_⟩
    · rintro fault ⟨⟩
    · rintro _ ⟨⟩
      exact enters.2

theorem tupleEnters :
    let p : HostObject := ⟨0, .base 0 "Point" [], []⟩
    let o : Value := .tuple [.object p, .quote (.symbol "a")] 1
    ((toLisp o).exec .empty).1 = .ok (.list [.foreign p 1, .quote (.symbol "a")]) ∧
      (∀ x : Value, ∀ fault, x.Given o → ¬ x.Refused fault) ∧
      (Value.list [.foreign p 1, .quote (.symbol "a")]).InUnion := by
  intro p o
  have ended : ((toLisp o).exec .empty).1 = .ok (.list [.foreign p 1, .quote (.symbol "a")]) := rfl
  obtain ⟨accepted, _, typed⟩ := handedOverEnters o .empty
  refine ⟨ended, accepted.1 ⟨_, ended⟩, (typed _ ended).2 ?_⟩
  intro q given isQuote
  rw [Value.givenTuple] at given
  rcases given with rfl | ⟨v, member, inside⟩
  · exact isQuote.elim
  · rcases List.mem_pair.1 member with rfl | rfl <;> rw [Value.givenAlone id] at inside <;> subst inside
    · exact isQuote.elim
    · rw [Value.inUnionQuote]
      rintro x ⟨⟩
      exact ⟨_, rfl⟩

/-- A quote brings in what would be refused without it, and a large integer is not refused as a
value of a wrong type. -/
theorem quotedStrangerEnters :
    let q : Value := .hostQuote (.stranger "Plain" "Plain()" 1) 2
    ((toLisp q).exec .empty).1 = .ok q ∧ q.descriptor? = none ∧ ¬ q.InUnion ∧
      ((toLisp (.integer Number.integerLimit 3)).exec .empty).1 = .error (.host .integerTooLarge) := by
  intro q
  have typeless : q.descriptor? = none := rfl
  refine ⟨rfl, typeless, ?_, ?_⟩
  · intro union
    obtain ⟨d, typed⟩ := union q .here
    rw [typeless] at typed
    cases typed
  · rw [toLispInteger, if_neg]
    rw [Number.ofIntFinite]
    exact Nat.lt_irrefl _

end Exchange

end DynLisp
