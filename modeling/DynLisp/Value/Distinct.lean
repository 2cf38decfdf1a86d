import DynLisp.Value.Equality
import DynLisp.Value.Projection

/-!
Values without duplicates, as a collection of the host keeps them. It files each value under a key
and takes two for one if their keys agree and the host's own equality holds of them. That equality
knows no variants among numbers: true, the number one and the integer one are equal. The key of a
quote is the look of its payload. Lists, and objects that can change, have no key.
-/

namespace DynLisp

inductive HashKey where
  /-- An exact number of steps, whatever kind of number it is. -/
  | steps (n : Int)
  | number (n : Number)
  | text (s : String)
  | nil
  | quote (shown : String)
  | function (primitive : Primitive) (arity : Arity)
  | params (names : List String)
  | type (d : Descriptor)
  | identity (n : Nat)
  | tuple (keys : List HashKey)
  deriving Repr

namespace HashKey

mutual

def same : HashKey → HashKey → Bool
  | steps n, steps m => n == m
  | number x, number y => x == y
  | text s, text t => s == t
  | nil, nil => true
  | quote s, quote t => s == t
  | function f a, function g b => f == g && a == b
  | params ps, params qs => ps == qs
  | type d, type e => d == e
  | identity n, identity m => n == m
  | tuple ks, tuple ls => sameAll ks ls
  | _, _ => false

def sameAll : List HashKey → List HashKey → Bool
  | [], [] => true
  | k :: ks, l :: ls => k.same l && sameAll ks ls
  | _, _ => false

end

mutual

theorem sameIff : (k l : HashKey) → (k.same l = true ↔ k = l)
  | tuple ks, l => by cases l <;> simp [same, sameAllIff ks]
  | steps _, l | number _, l | text _, l | nil, l | quote _, l | function _ _, l | params _, l
  | type _, l | identity _, l => by cases l <;> simp [same]

theorem sameAllIff : (ks ls : List HashKey) → (sameAll ks ls = true ↔ ks = ls)
  | [], ls => by cases ls <;> simp [sameAll]
  | k :: ks, ls => by cases ls <;> simp [sameAll, sameIff k, sameAllIff ks]

end

instance : DecidableEq HashKey := fun k l => decidable_of_iff _ (sameIff k l)

end HashKey

namespace Value

/-- The exact value, in steps, of anything that counts as a finite number of the host. -/
def hostSteps? : Value → Option Int
  | number n => n.toSteps?
  | bool b => some (if b then unity else 0)
  | integer n _ => some (n * unity)
  | _ => none

mutual

def hostEqual : Value → Value → Bool
  | tuple xs _, tuple ys _ => hostEqualAll xs ys
  | hostQuote v _, hostQuote w _ => v.same w
  | v, w => match v.hostSteps?, w.hostSteps? with
    | some a, some b => a == b
    | _, _ => v.same w

def hostEqualAll : List Value → List Value → Bool
  | [], [] => true
  | x :: xs, y :: ys => x.hostEqual y && hostEqualAll xs ys
  | _, _ => false

end

def unhashable {α : Type} (v : Value) : Except Fault α :=
  .error (.host (.unhashable v.hostTypeName))

mutual

def hashKey : Value → Except Fault HashKey
  | number n => .ok (match n.toSteps? with
    | some steps => .steps steps
    | none => .number n)
  | bool b => .ok (.steps (if b then unity else 0))
  | integer n _ => .ok (.steps (n * unity))
  | symbol x => .ok (.text x)
  | text s | derivedText s _ => .ok (.text s)
  | nil => .ok .nil
  | quote v | hostQuote v _ => .ok (.quote v.inspect)
  | builtin f => .ok (.function f.primitive f.arity)
  | lambda params _ => .ok (.params params)
  | type d => .ok (.type d)
  | foreign o _ => .ok (.identity o.identity)
  | absent => .ok (.identity 0)
  | tuple items _ => .tuple <$> hashKeys items
  | stranger typeName shown mark =>
    if typeName == "dict" || typeName == "set" then unhashable (stranger typeName shown mark)
    else .ok (.identity mark)
  | v => unhashable v

def hashKeys : List Value → Except Fault (List HashKey)
  | [] => .ok []
  | v :: vs => do
    let key ← hashKey v
    let keys ← hashKeys vs
    return key :: keys

end

def distinct (vs : List Value) : Except Fault (List Value) := do
  let keys ← hashKeys vs
  let kept := (vs.zip keys).foldl (fun (kept : List (Value × HashKey)) (v, key) =>
    if kept.any fun (w, k) => k == key && w.hostEqual v then kept else kept ++ [(v, key)]) []
  return kept.map Prod.fst

end Value

end DynLisp
