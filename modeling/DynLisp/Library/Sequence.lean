import DynLisp.Library.Numeric

/-!
Lists and texts. Positions count from zero; a text's are its characters.
-/

namespace DynLisp.Library

def cons : List Value → Except Fault Value
  | [v, vs] => do return .list (v :: (← vs.asListOrNil))
  | args => noPair args.length

/-- The item at a position; one below zero counts from the end. -/
def access (items : List Value) (position : Int) : Except Fault Value :=
  let place := if position < 0 then position + items.length else position
  match if place < 0 then none else items[place.toNat]? with
  | some item => .ok item
  | none => missing

def nonEmpty (v : Value) : Except Fault (List Value) := do
  let items ← v.asList
  if items.isEmpty then throw (.lisp .emptyList) else return items

def head : List Value → Except Fault Value
  | v :: _ => do access (← nonEmpty v) 0
  | [] => missing

def tail : List Value → Except Fault Value
  | v :: _ => do return .list (← nonEmpty v).tail
  | [] => missing

def length : List Value → Except Fault Value
  | .list items :: _ => .ok (.number (.ofNat items.length))
  | .text s :: _ | .derivedText s _ :: _ => .ok (.number (.ofNat s.length))
  | v :: _ => v.mismatch [.list, .text]
  | [] => missing

def nth : List Value → Except Fault Value
  | position :: v :: _ => do
    let items ← v.asList
    let x ← position.asNumber
    if !x.isInteger then position.mismatch [.number]
    else if !x.isBelow items.length then throw (.lisp .emptyList)
    else access items (← x.truncate)
  | _ => missing

def append (args : List Value) : Except Fault Value := do
  return .list (← args.mapM Value.asListOrNil).flatten

def reverse : List Value → Except Fault Value
  | v :: _ => do return .list (← v.asList).reverse
  | [] => missing

def concat (limit : Nat) (args : List Value) : Except Fault Value := do
  return .text (String.join (← args.mapM (Value.shown limit Value.display)))

def textLength : List Value → Except Fault Value
  | v :: _ => do return .number (.ofNat (← v.asText).length)
  | [] => missing

/-- A bound below zero counts from the end; bounds outside the text stand for its ends. -/
def clamp (length : Nat) (bound : Int) : Nat :=
  if bound < 0 then (bound + length).toNat else min bound.toNat length

def slice (s : String) (start : Int) (stop? : Option Int) : String :=
  let cs := s.toList
  let first := clamp cs.length start
  let past := match stop? with
    | some stop => clamp cs.length stop
    | none => cs.length
  .ofList ((cs.drop first).take (past - first))

/-- All bounds are taken before any is used; a third one is not. -/
def substring : List Value → Except Fault Value
  | v :: bounds => do
    let s ← v.asText
    match ← bounds.mapM Value.asInteger with
    | start :: rest => return .text (slice s start rest.head?)
    | [] => missing
  | [] => missing

def symbolOf : List Value → Except Fault Value
  | v :: _ => do
    let _ ← v.asText
    v.toSymbol
  | [] => missing

def typeOf : List Value → Except Fault Value
  | v :: _ =>
    match v.descriptor? with
    | some d => .ok (.type d)
    | none => v.mismatch []
  | [] => missing

end DynLisp.Library
