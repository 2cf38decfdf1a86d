import DynLisp.Text.Encoding.Charset.KsX1001
import DynLisp.Text.Encoding.Reading

/-!
Encodings of Korean. The character set lists some syllables; the others are spelt by their letters,
or have bytes of their own.
-/

namespace DynLisp.Korean

open Charset

/-- The letters that a syllable may start with, in the order of syllables. -/
def leading : List Char := "ㄱㄲㄴㄷㄸㄹㅁㅂㅃㅅㅆㅇㅈㅉㅊㅋㅌㅍㅎ".toList

/-- The letters that a syllable may end with. -/
def trailing : List Char := "ㄱㄲㄳㄴㄵㄶㄷㄹㄺㄻㄼㄽㄾㄿㅀㅁㅂㅄㅅㅆㅇㅈㅊㅋㅌㅍㅎ".toList

/-- The syllable of a first letter, a vowel, and a last letter, where the first of the last ones is
none at all. -/
def syllable (first vowel last : Nat) : Char :=
  Char.ofNat (0xAC00 + (first * 21 + vowel) * 28 + last)

def vowel (n : Nat) : Char := Char.ofNat (0x314F + n)

/-! ### The extended form -/

/-- A syllable from four pairs of bytes: a filler, a first letter, a vowel, and a last letter or a
filler. The first byte of each pair is the same. -/
def spelt? (first middle last : UInt8) : Option Char := do
  let consonant? (b : UInt8) : Option Char :=
    if 0xA1 ≤ b ∧ b ≤ 0xBE then some (Char.ofNat (0x3090 + b.toNat)) else none
  let first ← leading.idxOf? (← consonant? first)
  let middle ← if 0xBF ≤ middle ∧ middle ≤ 0xD3 then some (middle.toNat - 0xBF) else none
  let last ← if last = 0xD4 then some 0 else (· + 1) <$> trailing.idxOf? (← consonant? last)
  return syllable first middle last

def readExtended (_ : Unit) (b : UInt8) (bs : List UInt8) : Reading Unit :=
  if b < 0x80 then .chars 0 [Char.ofNat b.toNat] ()
  else match bs with
    | [] => .incomplete bs
    | c :: more =>
      if b = 0xA4 ∧ c = 0xD4 then
        match more with
        | d :: first :: e :: middle :: f :: last :: _ =>
          if d = 0xA4 ∧ e = 0xA4 ∧ f = 0xA4 then .ofChar () 7 (spelt? first middle last)
          else .illegal 1
        | _ => .incomplete bs
      else .ofChar () 1 (ksX1001.char? (b ^^^ 0x80).toNat (c ^^^ 0x80).toNat)

def extended (bs : List UInt8) : Except Undecodable (List Char) :=
  Reading.all "euc_kr" readExtended () 0 bs

/-! ### The unified form -/

/-- The syllables that the character set does not list, in order. It lists syllables in its rows
from the sixteenth to the fortieth, also in order. -/
def unlisted : Array Nat :=
  let listed := (ksX1001.rows.drop 15).take 25 |>.flatMap fun cells => cells.toList.map Char.toNat
  (without listed (List.range' 0xAC00 11172)).toArray

/-- The place of a second byte among those that may follow a first one: letters of either case, and
bytes with the top bit set. -/
def unifiedPlace? (c : UInt8) : Option Nat :=
  let c := c.toNat
  if 0x41 ≤ c ∧ c ≤ 0x5A then some (c - 0x41)
  else if 0x61 ≤ c ∧ c ≤ 0x7A then some (c - 0x47)
  else if 0x81 ≤ c ∧ c ≤ 0xFE then some (c - 0x4D)
  else none

def unifiedSyllable? (b c : UInt8) : Option Char := do
  let place ← unifiedPlace? c
  let index ←
    if 0x81 ≤ b ∧ b ≤ 0xA0 then some ((b.toNat - 0x81) * 178 + place)
    else if 0xA1 ≤ b ∧ b ≤ 0xC6 ∧ place < 84 then some (5696 + (b.toNat - 0xA1) * 84 + place)
    else none
  Char.ofNat <$> unlisted[index]?

def readUnified (_ : Unit) (b : UInt8) (bs : List UInt8) : Reading Unit :=
  if b < 0x80 then .chars 0 [Char.ofNat b.toNat] ()
  else match bs with
    | [] => .incomplete bs
    | c :: _ =>
      .ofChar () 1 ((ksX1001.char? (b ^^^ 0x80).toNat (c ^^^ 0x80).toNat).or (unifiedSyllable? b c))

def unified (bs : List UInt8) : Except Undecodable (List Char) :=
  Reading.all "cp949" readUnified () 0 bs

/-! ### The combining form -/

/-- Five bits for a letter of a syllable. -/
inductive Slot where
  | fill
  | letter (n : Nat)
  deriving DecidableEq, Repr

def firstSlot? (bits : Nat) : Option Slot :=
  if bits = 1 then some .fill
  else if 2 ≤ bits ∧ bits ≤ 20 then some (.letter (bits - 2))
  else none

/-- The vowels leave out two of each eight. -/
def vowelSlot? (bits : Nat) : Option Slot :=
  if bits = 2 then some .fill
  else if bits < 3 ∨ bits % 8 < 2 ∨ 29 < bits then none
  else some (.letter (bits - 3 - bits / 8 * 2))

def lastSlot? (bits : Nat) : Option Slot :=
  if bits = 1 then some .fill
  else if 2 ≤ bits ∧ bits ≤ 17 then some (.letter (bits - 1))
  else if 19 ≤ bits ∧ bits ≤ 29 then some (.letter (bits - 2))
  else none

/-- A syllable, or a letter on its own. -/
def combined? (first middle last : Slot) : Option Char :=
  match first, middle, last with
  | .fill, .fill, .fill => some (Char.ofNat 0x3000)
  | .fill, .fill, .letter n => trailing[n - 1]?
  | .fill, .letter n, .fill => some (vowel n)
  | .letter n, .fill, .fill => leading[n]?
  | .letter n, .letter m, .fill => some (syllable n m 0)
  | .letter n, .letter m, .letter k => some (syllable n m k)
  | _, _, _ => none

def combinedOfBytes? (b c : UInt8) : Option Char := do
  let bits := 256 * b.toNat + c.toNat
  combined? (← firstSlot? (bits / 1024 % 32)) (← vowelSlot? (bits / 32 % 32))
    (← lastSlot? (bits % 32))

/-- Row and cell of what is no syllable. Each first byte covers two rows. -/
def combiningCell? (b c : UInt8) : Option (Nat × Nat) :=
  let b := b.toNat
  let c := c.toNat
  if b < 0xD9 ∨ b = 0xDF ∨ 0xF9 < b ∨ c < 0x31 ∨ (0x7F ≤ c ∧ c < 0x91) ∨ c = 0xFF ∨
      (b = 0xDA ∧ 0xA1 ≤ c ∧ c ≤ 0xD3) then none
  else
    let block := if b < 0xE0 then 2 * (b - 0xD9) else 2 * b - 0x197
    let place := if c < 0x91 then c - 0x31 else c - 0x43
    some (0x21 + block + place / 94, 0x21 + place % 94)

def readCombining (_ : Unit) (b : UInt8) (bs : List UInt8) : Reading Unit :=
  if b < 0x80 then .chars 0 [Char.ofNat b.toNat] ()
  else match bs with
    | [] => .incomplete bs
    | c :: _ =>
      .ofChar () 1 <| if b < 0xD8 then combinedOfBytes? b c
        else (combiningCell? b c).bind fun (row, cell) => ksX1001.char? row cell

def combining (bs : List UInt8) : Except Undecodable (List Char) :=
  Reading.all "johab" readCombining () 0 bs

end DynLisp.Korean
