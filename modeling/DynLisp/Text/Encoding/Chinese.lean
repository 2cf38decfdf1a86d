import DynLisp.Text.Encoding.Charset.Big5
import DynLisp.Text.Encoding.Charset.Big5Vendor
import DynLisp.Text.Encoding.Charset.Gb2312
import DynLisp.Text.Encoding.Charset.Gbk
import DynLisp.Text.Encoding.Charset.Hkscs
import DynLisp.Text.Encoding.Reading

/-!
Encodings of Chinese: those of the mainland, each of which extends the one before, and Big5 with its
extensions.
-/

namespace DynLisp.Chinese

open Charset

/-- ASCII, and pairs of bytes of which the first has the top bit set. -/
def readPairs (pair? : UInt8 → UInt8 → Option (List Char)) (_ : Unit) (b : UInt8)
    (bs : List UInt8) : Reading Unit :=
  if b < 0x80 then .chars 0 [Char.ofNat b.toNat] ()
  else match bs with
    | [] => .incomplete bs
    | c :: _ => .ofChars () 1 (pair? b c)

/-! ### GB 2312 and its extensions -/

def gbPair? (b c : UInt8) : Option Char := gb2312.char? (b ^^^ 0x80).toNat (c ^^^ 0x80).toNat

def gb (bs : List UInt8) : Except Undecodable (List Char) :=
  Reading.all "gb2312" (readPairs fun b c => (gbPair? b c).map ([·])) () 0 bs

/-- The Han characters that the rows from the sixteenth on do not list, in order, and those that
follow them. -/
def unlisted : Array Nat :=
  let listed := (gb2312.rows.drop 15).flatMap fun cells =>
    (cells.toList.filter (· != ' ')).map Char.toNat
  let han := without (listed.mergeSort (· ≤ ·)) (List.range' 0x4E00 20902)
  (han ++ gbkCompatibility.toList.map Char.toNat).toArray

/-- The place of a second byte among those that may follow a first one. -/
def gbkPlace? (c : UInt8) : Option Nat :=
  let c := c.toNat
  if 0x40 ≤ c ∧ c ≤ 0x7E then some (c - 0x40)
  else if 0x80 ≤ c ∧ c ≤ 0xFE then some (c - 0x41)
  else none

def gbkHan? (b c : UInt8) : Option Char := do
  let place ← gbkPlace? c
  let index ←
    if 0x81 ≤ b ∧ b ≤ 0xA0 then some ((b.toNat - 0x81) * 190 + place)
    else if 0xAA ≤ b ∧ b ≤ 0xFE ∧ place < 96 then some (6080 + (b.toNat - 0xAA) * 96 + place)
    else none
  Char.ofNat <$> unlisted[index]?

def gbkPair? (b c : UInt8) : Option Char :=
  (Span.find? gbkSymbols b.toNat c.toNat).or <| (gbPair? b c).or (gbkHan? b c)

def gbk (bs : List UInt8) : Except Undecodable (List Char) :=
  Reading.all "gbk" (readPairs fun b c => (gbkPair? b c).map ([·])) () 0 bs

/-- Three areas of pairs are left to the users. -/
def gb18030User? (b c : UInt8) : Option Char := do
  let b := b.toNat
  let place ← gbkPlace? c
  if 96 ≤ place ∧ 0xAA ≤ b ∧ b ≤ 0xAF then
    return Char.ofNat (0xE000 + 94 * (b - 0xAA) + (place - 96))
  else if 96 ≤ place ∧ 0xF8 ≤ b ∧ b ≤ 0xFE then
    return Char.ofNat (0xE234 + 94 * (b - 0xF8) + (place - 96))
  else if place < 96 ∧ 0xA1 ≤ b ∧ b ≤ 0xA7 then
    return Char.ofNat (0xE4C6 + 96 * (b - 0xA1) + place)
  else none

def gb18030Pair? (b c : UInt8) : Option Char :=
  (gbkPair? b c).or <| (Span.find? gb18030Symbols b.toNat c.toNat).or (gb18030User? b c)

/-- The character of the number of a four-byte code: what pairs leave of the first plane comes first,
and the other planes start at a number of their own. -/
def gb18030Char? (number : Nat) : Option Char :=
  if number < 39420 then
    (gb18030Runs.takeWhile (·.1 ≤ number)).getLast?.map fun (start, code) =>
      Char.ofNat (code + (number - start))
  else if 189000 ≤ number ∧ number < 189000 + 0x100000 then
    some (Char.ofNat (number - 189000 + 0x10000))
  else none

def readGb18030 (_ : Unit) (b : UInt8) (bs : List UInt8) : Reading Unit :=
  let isDigit (c : UInt8) : Bool := 0x30 ≤ c && c ≤ 0x39
  let isLead (c : UInt8) : Bool := 0x81 ≤ c && c ≤ 0xFE
  if b < 0x80 then .chars 0 [Char.ofNat b.toNat] ()
  else match bs with
    | [] => .incomplete bs
    | c :: more =>
      if !isDigit c then .ofChar () 1 (gb18030Pair? b c)
      else match more with
        | d :: e :: _ =>
          if !(isLead b && isLead d && isDigit e) then .illegal 1
          else .ofChar () 3 (gb18030Char? (((b.toNat - 0x81) * 10 + (c.toNat - 0x30)) * 1260 +
            (d.toNat - 0x81) * 10 + (e.toNat - 0x30)))
        | _ => .incomplete bs

def gb18030 (bs : List UInt8) : Except Undecodable (List Char) :=
  Reading.all "gb18030" readGb18030 () 0 bs

/-- Seven bits for everything: tildes switch between ASCII and pairs, which is the state. -/
def readTildes (inPairs : Bool) (b : UInt8) (bs : List UInt8) : Reading Bool :=
  if b = 0x7E then
    match bs with
    | [] => .incomplete bs
    | c :: _ =>
      match inPairs, Char.ofNat c.toNat with
      | false, '~' => .chars 1 ['~'] false
      | false, '\x7b' => .chars 1 [] true
      | false, '\n' => .chars 1 [] false
      | true, '\x7d' => .chars 1 [] false
      | _, _ => .illegal 1
  else if 0x80 ≤ b then .illegal 1
  else if !inPairs then .chars 0 [Char.ofNat b.toNat] false
  else match bs with
    | [] => .incomplete bs
    | c :: _ => .ofChar true 1 (gb2312.char? b.toNat c.toNat)

def tildes (bs : List UInt8) : Except Undecodable (List Char) :=
  Reading.all "hz" readTildes false 0 bs

/-! ### Big5 and its extensions -/

/-- The cell of a second byte. -/
def big5Cell? (c : UInt8) : Option Nat :=
  let c := c.toNat
  if 0x40 ≤ c ∧ c ≤ 0x7E then some (c - 0x40)
  else if 0xA1 ≤ c ∧ c ≤ 0xFE then some (c - 0x62)
  else none

def readBig5 (cell? : Nat → Nat → Option (List Char)) : Unit → UInt8 → List UInt8 → Reading Unit :=
  readPairs fun b c => (big5Cell? c).bind (cell? b.toNat)

def taiwan (bs : List UInt8) : Except Undecodable (List Char) :=
  Reading.all "big5" (readBig5 fun row cell => (big5.char? row cell).map ([·])) () 0 bs

def windowsTaiwan (bs : List UInt8) : Except Undecodable (List Char) :=
  let cell? (row cell : Nat) : Option (List Char) :=
    ((Span.find? big5Windows row cell).or (big5.char? row cell)).map ([·])
  Reading.all "cp950" (readBig5 cell?) () 0 bs

/-- Hong Kong does not take three rows from Big5, save for the first part of one. -/
def hongKongCell? (row cell : Nat) : Option (List Char) :=
  let kept := row < 0xC6 || 0xC8 < row || (row == 0xC6 && cell < 63)
  match if kept then big5.char? row cell else none with
  | some c => some [c]
  | none => match hkscs.findSome? fun g => g.char? row cell with
    | some c => some [c]
    | none => hkscsCombined.lookup (row, cell)

def hongKong (bs : List UInt8) : Except Undecodable (List Char) :=
  Reading.all "big5hkscs" (readBig5 hongKongCell?) () 0 bs

end DynLisp.Chinese
