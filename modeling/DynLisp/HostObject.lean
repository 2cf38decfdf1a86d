import DynLisp.Association
import DynLisp.Number.Numeral
import DynLisp.Text.Quoted

/-!
Objects of the host, as far as the language sees them: a class, an identity, and fields that only
inspection shows.
-/

namespace DynLisp

/-- A class of host objects that may enter the language, with its own identity: another class may have
the same name and fields. A derived class adds fields to its parent's. -/
inductive HostClass where
  | base (identity : Nat) (name : String) (fields : List String)
  | derived (identity : Nat) (parent : HostClass) (name : String) (fields : List String)
  deriving DecidableEq, Repr

def HostClass.name : HostClass → String
  | base _ name _ => name
  | derived _ _ name _ => name

def HostClass.fields : HostClass → List String
  | base _ _ fields => fields
  | derived _ parent _ fields => parent.fields ++ fields

inductive FieldValue where
  | none
  | bool (b : Bool)
  | integer (n : Int)
  | number (n : Number)
  | text (s : String)
  | list (items : List FieldValue)
  | record (entries : List (String × FieldValue))
  deriving Repr, Inhabited

mutual

def FieldValue.inspect : FieldValue → String
  | .none => "None"
  | .bool b => if b then "True" else "False"
  | .integer n => toString n
  | .number n => n.numeral
  | .text s => Quoted.encode s
  | .list items => "[" ++ ", ".intercalate (FieldValue.inspectAll items) ++ "]"
  | .record entries => "\x7b" ++ ", ".intercalate (FieldValue.inspectEntries entries) ++ "\x7d"

def FieldValue.inspectAll : List FieldValue → List String
  | [] => []
  | v :: vs => v.inspect :: FieldValue.inspectAll vs

def FieldValue.inspectEntries : List (String × FieldValue) → List String
  | [] => []
  | (key, v) :: rest => (Quoted.encode key ++ ": " ++ v.inspect) :: FieldValue.inspectEntries rest

end

/-- An object: its identity, its class, and what it holds by name. It may come to hold more than the
fields of its class. -/
structure HostObject where
  identity : Nat
  cls : HostClass
  attributes : List (String × FieldValue)
  deriving Repr

namespace HostObject

/-- A new object, from the values of its class's fields in order. -/
def ofValues (identity : Nat) (cls : HostClass) (values : List FieldValue) : HostObject :=
  ⟨identity, cls, cls.fields.zip values⟩

/-- Two views of one object are the same object, whatever its fields hold by now. -/
def isSame (o p : HostObject) : Bool := o.identity == p.identity

/-- The class and its own fields; nothing else that the object holds is shown. -/
def inspect (o : HostObject) : String :=
  let shown := o.cls.fields.filterMap fun name =>
    (o.attributes.lookup name).map fun value => name ++ "=" ++ value.inspect
  o.cls.name ++ "(" ++ ", ".intercalate shown ++ ")"

def setField (name : String) (value : FieldValue) (o : HostObject) : HostObject :=
  { o with attributes := assign name value o.attributes }

end HostObject

end DynLisp
