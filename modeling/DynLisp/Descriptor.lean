/-!
Type descriptors: the variants of the language's values. A quote's descriptor may say what is
quoted, and one of a foreign value which registered class its object has.
-/

namespace DynLisp

inductive Descriptor where
  | number
  | bool
  | symbol
  | text
  | list
  | nil
  | quote
  | quoteOf (inner : Descriptor)
  | builtin
  | lambda
  | type
  | foreign
  | foreignOf (typeId : Nat)
  deriving DecidableEq, Repr

namespace Descriptor

def name : Descriptor → String
  | number => "Number"
  | bool => "Bool"
  | symbol => "Symbol"
  | text => "Str"
  | list => "List"
  | nil => "Nil"
  | quote => "Quote"
  | quoteOf d => "Quote(" ++ d.name ++ ")"
  | builtin => "HardFunc"
  | lambda => "Lambda"
  | type => "Type"
  | foreign => "Foreign"
  | foreignOf id => "Foreign(" ++ toString id ++ ")"

/-- Equality in which a quote on either side may leave its payload open, and a foreign descriptor on
the left its class. -/
def accepts : Descriptor → Descriptor → Bool
  | quote, quote | quote, quoteOf _ | quoteOf _, quote => true
  | quoteOf d, quoteOf e => d.accepts e
  | foreign, foreign | foreign, foreignOf _ => true
  | d, e => d == e

end Descriptor

end DynLisp
