import DynLisp.Scope
import Mathlib.Data.Finset.Card
import Mathlib.Data.List.Induction
import Mathlib.Data.List.Nodup

/-! Scopes over whole runs of writes. Names are texts and symbols in any mixture and count by
their spelling. A scope holds under a spelling what was written there last, and shows each
spelling once, in the order of the first writes, which later writes do not change. -/

namespace DynLisp

def Name.value : Name → Value
  | text s => .text s
  | symbol s => .symbol s

namespace Scope

inductive Change where
  | set (name : Name) (v : Value)
  | update (m : Mapping)

namespace Change

def after (s : Scope) : Change → Scope
  | set name v => s.set name.spelling v
  | update m => s.update m

/-- The values written, one after the other, each with the spelling of its name. -/
def writes : Change → List (String × Value)
  | set name v => [(name.spelling, v)]
  | update m => m.pairs.map fun (name, v) => (name.spelling, v)

end Change

def run (init : Mapping) (changes : List Change) : Scope :=
  changes.foldl Change.after (ofMapping init)

def runWrites (init : Mapping) (changes : List Change) : List (String × Value) :=
  (Change.update init).writes ++ changes.flatMap Change.writes

def writeAll (s : Scope) (ws : List (String × Value)) : Scope :=
  ws.foldl (fun s (name, v) => s.set name v) s

/-- The value is written under the spelling, and none after it. -/
def LastWrite (ws : List (String × Value)) (name : String) (v : Value) : Prop :=
  ∃ before after, ws = before ++ (name, v) :: after ∧ name ∉ after.map Prod.fst

/-- What a scope shows when it holds just these writes, made in this order. -/
structure Holds (s : Scope) (ws : List (String × Value)) : Prop where
  written : ∀ name v default?, LastWrite ws name.spelling v → s.get name default? = .ok v
  defaulted : ∀ name v, name.spelling ∉ ws.map Prod.fst → s.get name (some v) = .ok v
  missing : ∀ name, name.spelling ∉ ws.map Prod.fst →
    s.get name none = .error (.host (.missingKey name.spelling))
  ordered : s.names = (ws.map Prod.fst).eraseDups
  once : s.names.Nodup
  counted : s.size = (ws.map Prod.fst).toFinset.card
  contained : ∀ name, s.contains name.value = true ↔ ∃ v, s.get name none = .ok v

variable (s : Scope) (ws : List (String × Value))

theorem namesSet (name : String) (v : Value) :
    (s.set name v).names = if name ∈ s.names then s.names else s.names ++ [name] :=
  keysAssign name v s.bindings

theorem setExtends (name : String) (v : Value) : s.names <+: (s.set name v).names := by
  rw [namesSet]
  exact addedExtends name

theorem setNodup (distinct : s.names.Nodup) (name : String) (v : Value) :
    (s.set name v).names.Nodup := by
  rw [namesSet]
  exact addedNodup distinct name

theorem writeAllAppend (more : List (String × Value)) :
    s.writeAll (ws ++ more) = (s.writeAll ws).writeAll more := List.foldl_append

theorem writeAllExtends : s.names <+: (s.writeAll ws).names := by
  induction ws generalizing s with
  | nil => exact List.prefix_rfl
  | cons w ws ih => exact (s.setExtends w.1 w.2).trans (ih _)

theorem writeAllNodup (distinct : s.names.Nodup) : (s.writeAll ws).names.Nodup := by
  induction ws generalizing s with
  | nil => exact distinct
  | cons w ws ih => exact ih _ (s.setNodup distinct w.1 w.2)

theorem writeAllElsewhere {name : String} (elsewhere : name ∉ ws.map Prod.fst) :
    (s.writeAll ws).get? name = s.get? name := by
  induction ws generalizing s with
  | nil => rfl
  | cons w ws ih =>
    obtain ⟨other, rest⟩ := not_or.1 (mt List.mem_cons.2 elsewhere)
    refine (ih _ rest).trans ((lookupAssign w.1 name w.2 s.bindings).trans ?_)
    rw [if_neg (by simpa using other), get?]

theorem writeAllNames : (empty.writeAll ws).names = (ws.map Prod.fst).eraseDups := by
  -- From the front to the last write, which adds its name unless an earlier one did.
  induction ws using List.reverseRecOn with
  | nil => rfl
  | append_singleton ws w ih =>
    have last : (empty.writeAll (ws ++ [w])).names = ((empty.writeAll ws).set w.1 w.2).names := by
      rw [writeAllAppend]
      rfl
    rw [last, namesSet, ih, List.map_append]
    exact addedUsed _ w.1

theorem Change.afterWrites (c : Change) : c.after s = s.writeAll c.writes := by
  cases c with
  | set name v => rfl
  | update m => simp only [after, Scope.update, writes, writeAll, List.foldl_map]

theorem foldWrites (changes : List Change) :
    changes.foldl Change.after s = s.writeAll (changes.flatMap Change.writes) := by
  induction changes generalizing s with
  | nil => rfl
  | cons c changes ih =>
    rw [List.foldl_cons, ih, Change.afterWrites, List.flatMap_cons, writeAllAppend]

theorem runAll (init : Mapping) (changes : List Change) :
    run init changes = empty.writeAll (runWrites init changes) := by
  rw [runWrites, writeAllAppend, ← Change.afterWrites, ← foldWrites]
  rfl

theorem containsBound (name : Name) : s.contains name.value = (s.get? name.spelling).isSome := by
  cases name <;> rfl

theorem getBound {name : Name} {v : Value} (bound : s.get? name.spelling = some v)
    (default? : Option Value) : s.get name default? = .ok v := by
  rw [get, bound, Option.some_or]

theorem getUnbound {name : Name} (unbound : s.get? name.spelling = none) (v : Value) :
    s.get name (some v) = .ok v ∧
      s.get name none = .error (.host (.missingKey name.spelling)) := by
  rw [get, get, unbound]
  exact ⟨rfl, rfl⟩

theorem writeAllHolds : (empty.writeAll ws).Holds ws where
  written name v default? last := by
    obtain ⟨before, after, rfl, elsewhere⟩ := last
    refine getBound _ ?_ default?
    rw [writeAllAppend]
    refine (writeAllElsewhere _ after elsewhere).trans ((lookupAssign _ _ _ _).trans ?_)
    rw [if_pos (by simp)]
  defaulted name v unwritten := (getUnbound _ (writeAllElsewhere _ ws unwritten) v).1
  missing name unwritten := (getUnbound _ (writeAllElsewhere _ ws unwritten) .nil).2
  ordered := writeAllNames ws
  once := writeAllNodup empty ws List.nodup_nil
  counted := by
    have distinct := writeAllNodup empty ws List.nodup_nil
    have same : (empty.writeAll ws).names.toFinset = (ws.map Prod.fst).toFinset := by
      ext name
      simp [writeAllNames, List.mem_eraseDups]
    rw [← same, List.toFinset_card_of_nodup distinct, names, List.length_map, size]
  contained name := by
    rw [containsBound]
    cases found : (empty.writeAll ws).get? name.spelling with
    | some v => simp [getBound _ found]
    | none => simp [(getUnbound _ found .nil).2]

/-- After any writes a scope holds just these, whatever names were given as texts or as symbols; and
its names keep their places under all that is written later. -/
theorem holdsWrites (init : Mapping) (changes : List Change) :
    (run init changes).Holds (runWrites init changes) ∧
      ∀ more, (run init changes).names <+: (run init (changes ++ more)).names := by
  constructor
  · rw [runAll]
    exact writeAllHolds _
  · intro more
    rw [run, run, List.foldl_append, foldWrites _ more]
    exact writeAllExtends _ _

end Scope

end DynLisp
