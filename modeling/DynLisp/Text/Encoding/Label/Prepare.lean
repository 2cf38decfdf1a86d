import DynLisp.Text.Encoding.Fault
import DynLisp.Text.Encoding.Label.Class
import DynLisp.Text.Encoding.Label.Composition
import DynLisp.Text.Encoding.Label.Joining
import DynLisp.Text.Encoding.Label.Mapping
import DynLisp.Text.Runs

/-!
The form in which labels are compared: characters are replaced, taken apart, put in order and joined
again. Labels with characters that must not be in them, or that mix directions, have none.
-/

namespace DynLisp.Label

def replacement? (code : Nat) : Option (List Nat) :=
  let single := replacements.findSome? fun (start, images) =>
    if start ≤ code then images.toList[code - start]? else none
  let several := expansions.findSome? fun (start, images) =>
    if start ≤ code then images[code - start]? else none
  match single with
  | some c => some [c.toNat]
  | none => several.map fun text => text.toList.map Char.toNat

def replaced (code : Nat) : List Nat :=
  if 0xAC00 ≤ code ∧ code < 0xD7A4 then letters code else (replacement? code).getD [code]

/-- The class of a mark; zero for what is none. -/
def markClass (code : Nat) : Nat :=
  ((markClasses.find? fun (first, last, _) => first ≤ code && code ≤ last).map (·.2.2)).getD 0

def findComposition (first second : Nat) : List Char → Option Nat
  | a :: b :: c :: cs =>
    if a.toNat = first ∧ b.toNat = second then some c.toNat else findComposition first second cs
  | _ => none

def composition? (first second : Nat) : Option Nat :=
  findComposition first second compositions.toList

/-- A label that has a character written from right to left starts and ends with one, and has none
that is written from left to right. -/
def checked (text : List Nat) : Except Refusal (List Nat) :=
  let isLeftward (code : Nat) : Bool := inRuns leftward code
  match text.find? (inRuns unfit) with
  | some code => .error (.unfit code)
  | none =>
    if !text.any isLeftward then .ok text
    else if text.any (inRuns rightward) then .error .mixedDirections
    else if !(text.head?.any isLeftward && text.getLast?.any isLeftward) then .error .looseEnds
    else .ok text

def prepare (text : List Nat) : Except Refusal (List Nat) :=
  checked (joined markClass composition? (ordered markClass (text.flatMap replaced)))

end DynLisp.Label
