import DynLisp.Text.Quoted

/-!
Why bytes have no text: some of them are at fault, and can be named, or the text that they spell is
refused as a whole.
-/

namespace DynLisp

inductive DecodeReason where
  | startByte
  | continuationByte
  | endOfData
  | notAscii
  | truncated
  | loneSurrogate
  | brokenSurrogate
  | surrogateCode
  | codeOutOfRange
  | undefined
  | illegalSequence
  | incompleteSequence
  | partialCharacter
  | paddingBits
  | illFormed
  | specialCharacter
  | openShift
  | truncatedEscape (letter : Char) (digits : Nat)
  | illegalCode
  | escapeOutOfRange
  | lastBackslash
  | malformedName
  | unknownName
  deriving DecidableEq, Repr

def DecodeReason.message : DecodeReason → String
  | startByte => "invalid start byte"
  | continuationByte => "invalid continuation byte"
  | endOfData => "unexpected end of data"
  | notAscii => "ordinal not in range(128)"
  | truncated => "truncated data"
  | loneSurrogate => "illegal encoding"
  | brokenSurrogate => "illegal UTF-16 surrogate"
  | surrogateCode => "code point in surrogate code point range(0xd800, 0xe000)"
  | codeOutOfRange => "code point not in range(0x110000)"
  | undefined => "character maps to <undefined>"
  | illegalSequence => "illegal multibyte sequence"
  | incompleteSequence => "incomplete multibyte sequence"
  | partialCharacter => "partial character in shift sequence"
  | paddingBits => "non-zero padding bits in shift sequence"
  | illFormed => "ill-formed sequence"
  | specialCharacter => "unexpected special character"
  | openShift => "unterminated shift sequence"
  | truncatedEscape letter digits =>
    "truncated \\" ++ .ofList (letter :: List.replicate digits 'X') ++ " escape"
  | illegalCode => "illegal Unicode character"
  | escapeOutOfRange => "\\Uxxxxxxxx out of range"
  | lastBackslash => "\\ at end of string"
  | malformedName => "malformed \\N character escape"
  | unknownName => "unknown Unicode character name"

/-- The bytes at fault: the decoder that met them, their position and number, the first of them. -/
structure DecodeFault where
  decoder : String
  position : Nat
  length : Nat
  byte : UInt8
  reason : DecodeReason
  deriving DecidableEq, Repr

namespace DecodeFault

def place (f : DecodeFault) : String :=
  if f.length = 1 then
    "byte 0x" ++ .ofList (Quoted.hex 2 f.byte.toNat) ++ " in position " ++ toString f.position
  else
    "bytes in position " ++ toString f.position ++ "-" ++ toString (f.position + f.length - 1)

def message (f : DecodeFault) : String :=
  "'" ++ f.decoder ++ "' codec can't decode " ++ f.place ++ ": " ++ f.reason.message

end DecodeFault

/-- A reason to refuse a text. The text may be a part of another one, which has an encoding of its
own. -/
inductive Refusal where
  | undefined
  | openNumber
  | notDigit (c : Char)
  | beyondLast (code : Nat)
  | labelSize
  | unfit (code : Nat)
  | mixedDirections
  | looseEnds
  | prefixed
  | part (decoder : String) (refusal : Refusal)
  deriving DecidableEq, Repr

namespace Refusal

/-- How a failure reads to those who asked for the text by the name of an encoding. -/
def report (encodingName kind text : String) : String :=
  "decoding with '" ++ encodingName ++ "' codec failed (" ++ kind ++ ": " ++ text ++ ")"

def message : Refusal → String
  | undefined => "undefined encoding"
  | openNumber => "incomplete punicode string"
  | notDigit c => "Invalid extended code point '" ++ .singleton c ++ "'"
  | beyondLast code => "Invalid character U+" ++ .ofList (Nat.toDigits 16 code)
  | labelSize => "label empty or too long"
  | unfit code => "Invalid character " ++
      if 0xD800 ≤ code && code < 0xE000 then "'\\u" ++ .ofList (Quoted.hex 4 code) ++ "'"
      else Quoted.encode (.singleton (Char.ofNat code))
  | mixedDirections => "Violation of BIDI requirement 2"
  | looseEnds => "Violation of BIDI requirement 3"
  | prefixed => "Label starts with ACE prefix"
  | part decoder refusal => report decoder "UnicodeError" refusal.message

end Refusal

/-- Why bytes have no text. `unfaithful` tells of a label and of how its text would be spelt;
`unsupported`, of a shift to a character set that bytes can name, but not use there. -/
inductive Undecodable where
  | bytes (fault : DecodeFault)
  | text (refusal : Refusal)
  | unfaithful (label spelling : String)
  | unsupported
  deriving DecidableEq, Repr

end DynLisp
