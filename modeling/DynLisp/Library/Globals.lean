import DynLisp.Scope

/-!
The names that a new global scope binds: the constants, the core forms, and the library.
-/

namespace DynLisp.Library

def constants : List (String × Value) := [("true", .bool true), ("false", .bool false), ("nil", .nil)]

def forms : List Builtin := [
  ⟨"define", .define, .atLeast 2, true⟩,
  ⟨"if", .conditional, .among [2, 3], true⟩,
  ⟨"let", .letIn, .atLeast 2, true⟩,
  ⟨"lambda", .lambdaOf, .atLeast 1, true⟩,
  ⟨"quote", .quoteOf, .fixed 1, true⟩,
  ⟨"eval", .evaluate, .fixed 1, false⟩,
  ⟨"seq", .sequence, .any, false⟩]

def functions : List Builtin := [
  ⟨"+", .add, .atLeast 1, false⟩,
  ⟨"-", .subtract, .atLeast 1, false⟩,
  ⟨"*", .multiply, .atLeast 1, false⟩,
  ⟨"/", .divide, .atLeast 1, false⟩,
  ⟨"pow", .power, .fixed 2, false⟩,
  ⟨"mod", .modulo, .fixed 2, false⟩,
  ⟨"=", .equal, .atLeast 1, false⟩,
  ⟨"!=", .notEqual, .fixed 2, false⟩,
  ⟨"<", .less, .atLeast 2, false⟩,
  ⟨"<=", .lessEqual, .atLeast 2, false⟩,
  ⟨">", .greater, .atLeast 2, false⟩,
  ⟨">=", .greaterEqual, .atLeast 2, false⟩,
  ⟨"and", .conjunction, .any, false⟩,
  ⟨"or", .disjunction, .any, false⟩,
  ⟨"not", .negation, .fixed 1, false⟩,
  ⟨"list", .listOf, .any, false⟩,
  ⟨"cons", .cons, .fixed 2, false⟩,
  ⟨"head", .head, .fixed 1, false⟩,
  ⟨"tail", .tail, .fixed 1, false⟩,
  ⟨"len", .length, .fixed 1, false⟩,
  ⟨"nth", .nth, .fixed 2, false⟩,
  ⟨"append", .append, .atLeast 1, false⟩,
  ⟨"reverse", .reverse, .fixed 1, false⟩,
  ⟨"map", .map, .fixed 2, false⟩,
  ⟨"filter", .filter, .fixed 2, false⟩,
  ⟨"apply", .apply, .fixed 2, false⟩,
  ⟨"str", .concat, .any, false⟩,
  ⟨"str-len", .textLength, .fixed 1, false⟩,
  ⟨"substr", .substring, .among [2, 3], false⟩,
  ⟨"sym", .symbolOf, .fixed 1, false⟩,
  ⟨"type-of", .typeOf, .fixed 1, false⟩,
  ⟨"print", .print, .any, false⟩,
  ⟨"input", .input, .among [0, 1], false⟩,
  ⟨"exit", .exit, .among [0, 1], false⟩]

def builtins : List Builtin := forms ++ functions

def builtin? (name : String) : Option Builtin := builtins.find? (·.name == name)

def globals : Scope := ⟨constants ++ builtins.map fun f => (f.name, .builtin f)⟩

end DynLisp.Library
