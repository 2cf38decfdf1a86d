import DynLisp.Text.Encoding.Fault
import DynLisp.Text.Encoding.Listing

/-!
Code pages: encodings of one byte a character.
-/

namespace DynLisp

/-- The characters of the last bytes, up to the 255th; bytes before those stand for the character of
their number. A cell with `␀` is empty: its byte stands for nothing. -/
structure CodePage where
  last : String
  deriving Repr

namespace CodePage

def char? (page : CodePage) (b : UInt8) : Option Char :=
  let start := 256 - page.last.length
  if b.toNat < start then some (Char.ofNat b.toNat)
  else (page.last.toList[b.toNat - start]?).filter (· != '␀')

/-- Reads byte for byte, up to the first that stands for nothing. -/
def decodeEach (decoder : String) (reason : DecodeReason) (char? : UInt8 → Option Char)
    (position : Nat) : List UInt8 → Except DecodeFault (List Char)
  | [] => .ok []
  | b :: bs =>
    match char? b with
    | some c => (c :: ·) <$> decodeEach decoder reason char? (position + 1) bs
    | none => .error ⟨decoder, position, 1, b, reason⟩

def decode (page : CodePage) (bs : List UInt8) : Except DecodeFault (List Char) :=
  decodeEach "charmap" .undefined page.char? 0 bs

def asciiChar? (b : UInt8) : Option Char := if b < 0x80 then some (Char.ofNat b.toNat) else none

end CodePage

end DynLisp
