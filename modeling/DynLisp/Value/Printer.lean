import DynLisp.Text.Escape
import DynLisp.Value.Basic

/-!
Texts of values. `source` is what the reader takes back, as far as a value can be read at all;
`display` is the same with strings left bare; `inspect` shows how the host holds a value. To print is
to go down into a value, as deep as it is nested.
-/

namespace DynLisp

def Builtin.inspect (f : Builtin) : String :=
  "HardFunc(" ++ Quoted.encode f.name ++ ", " ++ f.arity.text ++ ")"

namespace Value

/-- A single item keeps its comma. -/
def tupleText : List String → String
  | [s] => "(" ++ s ++ ",)"
  | ss => "(" ++ ", ".intercalate ss ++ ")"

def lambdaText (params forms : List String) : String :=
  "(lambda (" ++ " ".intercalate params ++ ")" ++ String.join (forms.map (" " ++ ·)) ++ ")"

mutual

def source : Value → String
  | number n => n.source
  | bool b => if b then "true" else "false"
  | symbol x => x
  | text s | derivedText s _ => Escape.encode s
  | list items => "(" ++ " ".intercalate (sources items) ++ ")"
  | nil => "nil"
  | quote v => "'" ++ v.source
  | builtin f => "<builtin " ++ f.name ++ ">"
  | lambda params body => lambdaText params (sources body)
  | type d => "<type " ++ d.name ++ ">"
  | foreign o _ => "<foreign " ++ o.cls.name ++ ">"
  | absent => "None"
  | integer n _ => toString n
  | tuple items _ => tupleText (inspections items)
  | object o => o.inspect
  | stranger _ shown _ => shown
  | hostQuote v _ => "'" ++ v.source

def sources : List Value → List String
  | [] => []
  | v :: vs => v.source :: sources vs

def inspect : Value → String
  | number n => n.numeral
  | bool b => if b then "True" else "False"
  | symbol x => "Symbol(" ++ Quoted.encode x ++ ")"
  | text s | derivedText s _ => Quoted.encode s
  | list items => "[" ++ ", ".intercalate (inspections items) ++ "]"
  | nil => "nil"
  | quote v => "Quote(" ++ v.inspect ++ ")"
  | builtin f => f.inspect
  | lambda params body => lambdaText params (sources body)
  | type d => "ValueType(" ++ d.name ++ ")"
  | foreign o id => "Foreign(" ++ o.inspect ++ ", type_id=" ++ toString id ++ ")"
  | absent => "None"
  | integer n _ => toString n
  | tuple items _ => tupleText (inspections items)
  | object o => o.inspect
  | stranger _ shown _ => shown
  | hostQuote v _ => "Quote(" ++ v.inspect ++ ")"

def inspections : List Value → List String
  | [] => []
  | v :: vs => v.inspect :: inspections vs

end

mutual

def nesting : Value → Nat
  | list items | tuple items _ | lambda _ items => nestingAll items + 1
  | quote v | hostQuote v _ => v.nesting + 1
  | _ => 0

def nestingAll : List Value → Nat
  | [] => 0
  | v :: vs => max v.nesting (nestingAll vs)

end

def display : Value → String
  | text s | derivedText s _ => s
  | v => v.source

def hostText : Value → String
  | text s | derivedText s _ => s
  | symbol x => x
  | quote v | hostQuote v _ => (quote v).source
  | builtin f => (builtin f).source
  | type d => d.name
  | foreign o id => (foreign o id).source
  | v => v.inspect

end Value

end DynLisp
