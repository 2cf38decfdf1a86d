import DynLisp.Text.Encoding.Charset.JisVendor
import DynLisp.Text.Encoding.Charset.JisX0208
import DynLisp.Text.Encoding.Charset.JisX0212
import DynLisp.Text.Encoding.Charset.JisX0213
import DynLisp.Text.Encoding.Reading

/-!
Encodings of Japanese. The extended form sets the top bit in the bytes of a row and of a cell. The
shifted form has the half-width katakana between its first bytes, each of which covers two rows.
-/

namespace DynLisp.Japanese

open Charset

/-- The half-width katakana, in bytes with the top bit set. -/
def katakana? (b : UInt8) : Option Char :=
  if 0xA1 ≤ b ∧ b ≤ 0xDF then some (Char.ofNat (0xFEC0 + b.toNat)) else none

inductive Edition where
  | of2000
  | of2004
  deriving DecidableEq, Repr

/-- The cells of the first plane that only the later edition filled. -/
def addedCells : List (Nat × Nat) := [(0x2E, 0x21), (0x2F, 0x7E), (0x4F, 0x54), (0x4F, 0x7E),
  (0x74, 0x27), (0x7E, 0x7A), (0x7E, 0x7B), (0x7E, 0x7C), (0x7E, 0x7D), (0x7E, 0x7E)]

def firstPlane (edition : Edition) (row cell : Nat) : Option (List Char) :=
  if edition = .of2000 ∧ (row, cell) ∈ addedCells then none
  else match (jisX0208.char? row cell).or (jisX0213First.char? row cell) with
    | some c => some [c]
    | none => jisX0213Combined.lookup (row, cell)

/-- The pair of bytes of a cell of the first plane. Both bytes are at fault for a cell that is filled
in the later edition only. -/
def readFirstPlane (edition : Edition) (row cell : Nat) : Reading Unit :=
  if edition = .of2000 ∧ (row, cell) ∈ addedCells then .illegal 2
  else .ofChars () 1 (firstPlane edition row cell)

/-- The editions differ in the form of one character. -/
def secondPlane (edition : Edition) (row cell : Nat) : Option Char :=
  if edition = .of2000 ∧ (row, cell) = (0x7D, 0x3B) then some '鬝' else jisX0213Second.char? row cell

/-! ### The extended form -/

/-- Two more sets lie behind bytes of their own. -/
def readExtended (first : Nat → Nat → Reading Unit) (second : Nat → Nat → Option Char)
    (_ : Unit) (b : UInt8) (bs : List UInt8) : Reading Unit :=
  let low (b : UInt8) : Nat := (b ^^^ 0x80).toNat
  if b < 0x80 then .chars 0 [Char.ofNat b.toNat] ()
  else if b = 0x8E then
    match bs with
    | c :: _ => .ofChar () 1 (katakana? c)
    | _ => .incomplete bs
  else if b = 0x8F then
    match bs with
    | c :: d :: _ => .ofChar () 2 (second (low c) (low d))
    | _ => .incomplete bs
  else
    match bs with
    | c :: _ => first (low b) (low c)
    | _ => .incomplete bs

def extended (bs : List UInt8) : Except Undecodable (List Char) :=
  let first (row cell : Nat) : Reading Unit := .ofChar () 1 (jisX0208.char? row cell)
  Reading.all "euc_jp" (readExtended first jisX0212.char?) () 0 bs

/-- Empty cells of the second plane are those of the supplementary set. -/
def extendedX0213 (edition : Edition) (bs : List UInt8) : Except Undecodable (List Char) :=
  let decoder := match edition with
    | .of2000 => "euc_jisx0213"
    | .of2004 => "euc_jis_2004"
  let second (row cell : Nat) : Option Char :=
    (secondPlane edition row cell).or (jisX0212.char? row cell)
  Reading.all decoder (readExtended (readFirstPlane edition) second) () 0 bs

/-! ### The shifted form -/

/-- Row and cell of two bytes; rows go on beyond the 94th. -/
def shiftedCell? (b c : UInt8) : Option (Nat × Nat) :=
  let b := b.toNat
  let c := c.toNat
  if c < 0x40 ∨ c = 0x7F ∨ 0xFC < c then none
  else
    let place := if c < 0x80 then c - 0x40 else c - 0x41
    let block := if b < 0xE0 then b - 0x81 else b - 0xC1
    some (0x21 + 2 * block + place / 94, 0x21 + place % 94)

/-- The first bytes of the rows up to the last one. -/
def isLead (last b : UInt8) : Bool := (0x81 ≤ b && b ≤ 0x9F) || (0xE0 ≤ b && b ≤ last)

def readShifted (single? : UInt8 → Option Char) (isLead : UInt8 → Bool)
    (pair : Nat → Nat → Reading Unit) (_ : Unit) (b : UInt8) (bs : List UInt8) : Reading Unit :=
  match single? b with
  | some c => .chars 0 [c] ()
  | none =>
    if !isLead b then .illegal 1
    else match bs with
      | [] => .incomplete bs
      | c :: _ => match shiftedCell? b c with
        | some (row, cell) => pair row cell
        | none => .illegal 1

def shifted (bs : List UInt8) : Except Undecodable (List Char) :=
  let single? (b : UInt8) : Option Char :=
    if b < 0x80 then some (Char.ofNat b.toNat) else katakana? b
  let pair (row cell : Nat) : Reading Unit := .ofChar () 1 (jisX0208.char? row cell)
  Reading.all "shift_jis" (readShifted single? (isLead 0xEA) pair) () 0 bs

/-- The Roman letters of Japan, which have two characters of their own. -/
def roman? (b : UInt8) : Option Char :=
  if b = 0x5C then some '¥'
  else if b = 0x7E then some '‾'
  else if b < 0x80 then some (Char.ofNat b.toNat)
  else none

/-- The row of the second plane in the place of a row beyond the 94th. -/
def secondPlaneRow (row : Nat) : Nat :=
  let beyond := row - 0x21
  if 0x67 ≤ beyond then beyond + 7
  else if 0x63 ≤ beyond ∨ beyond = 0x5F then beyond - 0x37
  else beyond - 0x3D

/-- What is a full-width form elsewhere is plain where the single bytes leave it out. -/
def shiftedX0213 (edition : Edition) (bs : List UInt8) : Except Undecodable (List Char) :=
  let decoder := match edition with
    | .of2000 => "shift_jisx0213"
    | .of2004 => "shift_jis_2004"
  let pair (row cell : Nat) : Reading Unit :=
    if 0x7F ≤ row then .ofChar () 1 (secondPlane edition (secondPlaneRow row) cell)
    else if (row, cell) = (0x21, 0x40) then .chars 1 ['\\'] ()
    else if (row, cell) = (0x22, 0x32) then .chars 1 ['~'] ()
    else readFirstPlane edition row cell
  let single? (b : UInt8) : Option Char := (roman? b).or (katakana? b)
  Reading.all decoder (readShifted single? (isLead 0xFC) pair) () 0 bs

/-- Cells that Windows gives other characters. -/
def windowsCells : List ((Nat × Nat) × Char) := [((0x21, 0x41), '～'), ((0x21, 0x42), '∥'),
  ((0x21, 0x5D), '－'), ((0x21, 0x71), '￠'), ((0x21, 0x72), '￡'), ((0x22, 0x4C), '￢')]

def windowsSingle? (b : UInt8) : Option Char :=
  if b ≤ 0x80 then some (Char.ofNat b.toNat)
  else if b = 0xA0 then some (Char.ofNat 0xF8F0)
  else if 0xFD ≤ b then some (Char.ofNat (0xF7F4 + b.toNat))
  else katakana? b

/-- Twenty rows are left to the users. -/
def windowsPair? (row cell : Nat) : Option Char :=
  if 127 ≤ row ∧ row < 147 then some (Char.ofNat (0xE000 + 94 * (row - 127) + (cell - 0x21)))
  else (windowsCells.lookup (row, cell)).or <|
    (Span.find? jisVendor row cell).or (jisX0208.char? row cell)

def windows (bs : List UInt8) : Except Undecodable (List Char) :=
  let pair (row cell : Nat) : Reading Unit := .ofChar () 1 (windowsPair? row cell)
  Reading.all "cp932" (readShifted windowsSingle? (fun _ => true) pair) () 0 bs

end DynLisp.Japanese
