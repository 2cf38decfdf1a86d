import DynLisp.Arity
import DynLisp.Descriptor
import DynLisp.HostObject

/-!
Values of the language, which are also its code: symbols and lists are forms to evaluate, quotes
hold a form back. The last six constructors are objects of the host that lie outside the language;
they can be carried about, but have no descriptor. A text may be one of a class that the host derives
from that of texts: the language takes it for the text that it is, but no symbol can be made of it.
-/

namespace DynLisp

/-- A function of the host, by its identity. What it does is for the host to say. -/
structure HostFunction where
  identity : Nat
  deriving DecidableEq, Repr

/-- What a builtin does; two builtins that do the same may have different names. -/
inductive Primitive where
  | define | conditional | letIn | lambdaOf | quoteOf | evaluate | sequence
  | add | subtract | multiply | divide | power | modulo
  | equal | notEqual | less | lessEqual | greater | greaterEqual
  | conjunction | disjunction | negation
  | listOf | cons | head | tail | length | nth | append | reverse | map | filter | apply
  | concat | textLength | substring | symbolOf | typeOf
  | print | input | exit
  | host (f : HostFunction)
  deriving DecidableEq, Repr

/-- A callable that the host implements. A special one receives its arguments unevaluated. -/
structure Builtin where
  name : String
  primitive : Primitive
  arity : Arity
  special : Bool
  deriving DecidableEq, Repr

inductive Value where
  | number (n : Number)
  | bool (b : Bool)
  | symbol (name : String)
  | text (s : String)
  | derivedText (s typeName : String)
  | list (items : List Value)
  | nil
  | quote (payload : Value)
  | builtin (f : Builtin)
  | lambda (params : List String) (body : List Value)
  | type (d : Descriptor)
  /-- An object wrapped with the id of its class. -/
  | foreign (object : HostObject) (typeId : Nat)
  | absent
  | integer (n : Int) (mark : Nat)
  | tuple (items : List Value) (mark : Nat)
  | object (o : HostObject)
  /-- An object of which only its type's name and its text are known. -/
  | stranger (typeName text : String) (mark : Nat)
  /-- A quote that the host puts around one of these objects. -/
  | hostQuote (payload : Value) (mark : Nat)
  deriving Repr

namespace Value

def descriptor? : Value → Option Descriptor
  | number _ => some .number
  | bool _ => some .bool
  | symbol _ => some .symbol
  | text _ | derivedText _ _ => some .text
  | list _ => some .list
  | nil => some .nil
  | quote v => v.descriptor?.map .quoteOf
  | builtin _ => some .builtin
  | lambda _ _ => some .lambda
  | type _ => some .type
  | foreign _ id => some (.foreignOf id)
  | _ => none

/-- The name of the host's type of a value, as shown where there is no descriptor. -/
def hostTypeName : Value → String
  | number _ => "float"
  | bool _ => "bool"
  | symbol _ => "Symbol"
  | text _ => "str"
  | derivedText _ typeName => typeName
  | list _ => "list"
  | nil => "NilType"
  | quote _ => "Quote"
  | builtin _ => "HardFunc"
  | lambda _ _ => "Lambda"
  | type _ => "ValueType"
  | foreign _ _ => "Foreign"
  | absent => "NoneType"
  | integer _ _ => "int"
  | tuple _ _ => "tuple"
  | object o => o.cls.name
  | stranger name _ _ => name
  | hostQuote _ _ => "Quote"

def describe (v : Value) : String :=
  match v.descriptor? with
  | some d => d.name
  | none => "host " ++ v.hostTypeName

end Value

end DynLisp
