import DynLisp.Text.Encoding.Reading

/-!
Texts of one byte a character, in which a backslash introduces what has no byte: a character by its
code, or, in the full form, also by a letter or by its name.
-/

namespace DynLisp.Escaped

def digit? (b : UInt8) : Option Nat :=
  let n := b.toNat
  if 48 ≤ n ∧ n ≤ 57 then some (n - 48)
  else if 97 ≤ n ∧ n ≤ 102 then some (n - 87)
  else if 65 ≤ n ∧ n ≤ 70 then some (n - 55)
  else none

/-- A code in hexadecimal digits, all of which are needed, after a letter that calls for them. -/
def readCode (letter : Char) (digits : Nat) (beyond : DecodeReason) (bs : List UInt8) :
    Reading Unit :=
  let found := ((bs.take digits).map digit?).takeWhile Option.isSome
  let code := found.foldl (fun n d => 16 * n + d.getD 0) 0
  if found.length < digits then .fault (2 + found.length) (.truncatedEscape letter digits)
  else if 0x110000 ≤ code then .fault (2 + digits) beyond
  else if 0xD800 ≤ code ∧ code < 0xE000 then .chars (1 + digits) [Char.ofNat 0xFFFD] ()
  else .chars (1 + digits) [Char.ofNat code] ()

/-- Up to three octal digits. -/
def readOctal (bs : List UInt8) : Reading Unit :=
  let digits := (bs.take 3).takeWhile fun b => 48 ≤ b && b ≤ 55
  .chars digits.length [Char.ofNat (digits.foldl (fun n b => 8 * n + (b.toNat - 48)) 0)] ()

/-- A name between braces. No name is known. -/
def readName (bs : List UInt8) : Reading Unit :=
  match bs with
  | 0x7B :: bs =>
    let name := bs.takeWhile (· != 0x7D)
    if name.length = bs.length then .fault (3 + name.length) .malformedName
    else if name.isEmpty then .fault 3 .malformedName
    else .fault (4 + name.length) .unknownName
  | _ => .fault 2 .malformedName

/-- The letters, and the other characters, that stand for one character. -/
def letters : List (Char × Char) := [('\\', '\\'), ('\'', '\''), ('\"', '\"'), ('b', '\x08'),
  ('f', '\x0c'), ('t', '\t'), ('n', '\n'), ('r', '\r'), ('v', '\x0b'), ('a', '\x07')]

def readEscape : List UInt8 → Reading Unit
  | [] => .fault 1 .lastBackslash
  | b :: bs =>
    let c := Char.ofNat b.toNat
    match letters.lookup c with
    | some plain => .chars 1 [plain] ()
    | none => match c with
      | '\n' => .chars 1 [] ()
      | 'x' => readCode 'x' 2 .illegalCode bs
      | 'u' => readCode 'u' 4 .illegalCode bs
      | 'U' => readCode 'U' 8 .illegalCode bs
      | 'N' => readName bs
      | c => if '0' ≤ c && c ≤ '7' then readOctal (b :: bs) else .chars 1 ['\\', c] ()

def readRawEscape : List UInt8 → Reading Unit
  | [] => .chars 0 ['\\'] ()
  | b :: bs =>
    match Char.ofNat b.toNat with
    | 'u' => readCode 'u' 4 .escapeOutOfRange bs
    | 'U' => readCode 'U' 8 .escapeOutOfRange bs
    | c => .chars 1 ['\\', c] ()

def read (readEscape : List UInt8 → Reading Unit) (_ : Unit) (b : UInt8) (bs : List UInt8) :
    Reading Unit :=
  if b = 0x5C then readEscape bs else .chars 0 [Char.ofNat b.toNat] ()

def decode (bs : List UInt8) : Except Undecodable (List Char) :=
  Reading.all "unicodeescape" (read readEscape) () 0 bs

def decodeRaw (bs : List UInt8) : Except Undecodable (List Char) :=
  Reading.all "rawunicodeescape" (read readRawEscape) () 0 bs

end DynLisp.Escaped
