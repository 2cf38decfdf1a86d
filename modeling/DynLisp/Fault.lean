import DynLisp.Number.Power
import DynLisp.Number.Sum
import DynLisp.Text.Encoding.Basic
import DynLisp.Value.Printer

/-!
Why reading and evaluation fail. `LispError` is the family that the language answers for; a
`HostFault` is raised by the host underneath and passes through.
-/

namespace DynLisp

/-- An error of the host, of a class that the language does not know. -/
structure HostError where
  typeName : String
  message : String
  deriving DecidableEq, Repr

inductive ArithmeticCause where
  | divisionByZero
  | moduloByZero
  | zeroToNegative
  | powerOverflow
  | complexOverflow
  | notReal (base exponent : Number)
  deriving DecidableEq, Repr

inductive StreamCause where
  | host (message : String)
  | undecodable (fault : DecodeFault)
  | endOfInput
  deriving DecidableEq, Repr

inductive LispError where
  | unclosedList
  | unclosedQuote
  | invalidDelimiter (token : String)
  | invalidHex (literal : String)
  | noForms
  | undeclared (name : String)
  | notCallable (v : Value)
  | emptyCall
  | wrongCount (expected : Arity) (got : Nat)
  | wrongType (expected : List Descriptor) (got : Value)
  | emptyList
  | stream (cause : StreamCause)
  | foreignMismatch (requested : Nat) (className : String) (got : Value)
  | arithmetic (cause : ArithmeticCause)
  deriving Repr

inductive HostFault where
  | sum (cause : SumFault)
  | integerTooLarge
  | exit (code : Int)
  | integerOfInfinity
  | integerOfNaN
  | badNumeral (text : String)
  | tooDeep
  | badName (typeName : String)
  | uninterned (typeName : String)
  | noConversion (typeName : String)
  | unhashable (typeName : String)
  | missingKey (name : String)
  | globalScope
  | unknownEncoding (name : String)
  | notTextEncoding (name : String)
  | refusedText (encodingName : String) (refusal : Refusal)
  | unfaithfulLabel (label spelling : String)
  | unsupportedShift (encodingName : String)
  | outOfRange
  | unpackShort (atLeast : Bool) (expected got : Nat)
  | unpackLong (expected : Nat)
  | raised (error : HostError)
  deriving DecidableEq, Repr

inductive Fault where
  | lisp (error : LispError)
  | host (fault : HostFault)
  deriving Repr

def ArithmeticCause.message : ArithmeticCause → String
  | divisionByZero => "Division by zero"
  | moduloByZero => "Modulo by zero"
  | zeroToNegative => "Zero cannot be raised to a negative power"
  | powerOverflow => "(34, 'Numerical result out of range')"
  | complexOverflow => "complex exponentiation"
  | notReal base exponent =>
    "pow of " ++ base.source ++ " and " ++ exponent.source ++ " is not real"

def StreamCause.message : StreamCause → String
  | host message => message
  | undecodable fault => fault.message
  | endOfInput => "end of input"

namespace LispError

def isReading : LispError → Bool
  | unclosedList | unclosedQuote | invalidDelimiter _ | invalidHex _ | noForms => true
  | _ => false

def expectation : List Descriptor → String
  | [] => "nothing"
  | ds => " or ".intercalate (ds.map Descriptor.name)

def message : LispError → String
  | unclosedList => "Unclosed list: input ended before the matching delimiter"
  | unclosedQuote => "Unclosed quote: input ended after '"
  | invalidDelimiter token => "Invalid list delimiter " ++ Quoted.encode token
  | invalidHex literal => "Invalid hexadecimal literal " ++ Quoted.encode literal
  | noForms => "Source code contains no forms"
  | undeclared name =>
    name ++ " does not refer to a valid value stored in any currently accessible scope"
  | notCallable v => v.source ++ " is not a callable function"
  | emptyCall => "Attempt to eval empty list"
  | wrongCount expected got =>
    "expected " ++ expected.text ++ " arguments, but got " ++ toString got
  | wrongType expected got =>
    "expected " ++ expectation expected ++ ", but got a " ++ got.describe ++
      " with a value of " ++ got.source
  | emptyList => "Cannot take any elements out of an empty list"
  | stream cause => "An IO error occurred: " ++ cause.message
  | foreignMismatch requested className got =>
    "expected foreign type " ++ className ++ " (id " ++ toString requested ++ "), but got " ++
      got.source
  | arithmetic cause => cause.message

end LispError

def HostFault.message? : HostFault → Option String
  | sum .overflow => some "intermediate overflow in fsum"
  | sum .opposedInfinities => some "-inf + inf in fsum"
  | integerTooLarge => some "int too large to convert to float"
  | exit code => some (toString code)
  | integerOfInfinity => some "cannot convert float infinity to integer"
  | integerOfNaN => some "cannot convert float NaN to integer"
  | badNumeral text => some ("could not convert string to float: " ++ Quoted.encode text)
  | tooDeep => none
  | badName typeName => some ("Symbol name must be a str, not " ++ typeName)
  | uninterned typeName => some ("can't intern " ++ typeName)
  | noConversion typeName =>
    some ("No conversion from a lisp value to <class '" ++ typeName ++ "'>")
  | unhashable typeName => some ("unhashable type: '" ++ typeName ++ "'")
  | missingKey name => some (Quoted.encode name)
  | globalScope => some "Cannot pop the global scope"
  | unknownEncoding name => some ("unknown encoding: " ++ name)
  | notTextEncoding name => some ("'" ++ name ++
      "' is not a text encoding; use codecs.decode() to handle arbitrary codecs")
  | refusedText encodingName refusal =>
    some (Refusal.report encodingName "UnicodeError" refusal.message)
  | unfaithfulLabel label spelling =>
    some ("('IDNA does not round-trip', b" ++ Quoted.encode label ++ ", b" ++
      Quoted.encode spelling ++ ")")
  | unsupportedShift encodingName =>
    some (Refusal.report encodingName "RuntimeError" "internal codec error")
  | outOfRange => some "list index out of range"
  | unpackShort atLeast expected got =>
    some ("not enough values to unpack (expected " ++ (if atLeast then "at least " else "") ++
      toString expected ++ ", got " ++ toString got ++ ")")
  | unpackLong expected => some ("too many values to unpack (expected " ++ toString expected ++ ")")
  | raised error => some error.message

def Fault.message? : Fault → Option String
  | lisp e => some e.message
  | host f => f.message?

end DynLisp
