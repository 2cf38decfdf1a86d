import DynLisp.Text.Encoding.Chinese
import DynLisp.Text.Encoding.CodePage.Iso
import DynLisp.Text.Encoding.Japanese
import DynLisp.Text.Encoding.Korean

/-!
Encodings that switch between character sets by escape sequences. Three places hold a set each: bytes
mean the first one, or the second one while they are shifted, and the third one for one character
after an escape sequence of its own.
-/

namespace DynLisp.Iso2022

open Charset

inductive CharacterSet where
  | ascii
  | roman
  | katakana
  | latin1
  | greek
  | jisX0208
  | jisX0212
  | jisX0213 (edition : Japanese.Edition)
  | jisX0213Second
  | ksX1001
  | gb2312
  deriving DecidableEq, Repr

namespace CharacterSet

/-- The two sets of the third place have no characters elsewhere. -/
def single? (set : CharacterSet) (b : UInt8) : Option Char :=
  match set with
  | ascii => some (Char.ofNat b.toNat)
  | roman => Japanese.roman? b
  | katakana => Japanese.katakana? (b ^^^ 0x80)
  | _ => none

/-- How many bytes a character of the set takes. -/
def width : CharacterSet → Nat
  | ascii | roman | katakana | latin1 | greek => 1
  | _ => 2

def pair? (set : CharacterSet) (row cell : Nat) : Option (List Char) :=
  match set with
  | jisX0208 => (Charset.jisX0208.char? row cell).map ([·])
  | jisX0212 => (Charset.jisX0212.char? row cell).map ([·])
  | jisX0213 edition =>
    if (row, cell) = (0x22, 0x32) then some ['~'] else Japanese.firstPlane edition row cell
  | jisX0213Second => (Charset.jisX0213Second.char? row cell).map ([·])
  | ksX1001 => (Charset.ksX1001.char? row cell).map ([·])
  | gb2312 => (Charset.gb2312.char? row cell).map ([·])
  | _ => none

end CharacterSet

/-- What distinguishes the encodings of the family: the sets that can be called for, by the last
character of an escape sequence, in one byte a character or in two; whether bytes can be shifted, and
whether there is a third place; and whether a prefix is accepted that announces a revised set. -/
structure Version where
  decoder : String
  singles : List (Char × CharacterSet)
  pairs : List (Char × CharacterSet)
  shifts : Bool
  thirdPlace : Bool
  revisions : Bool
  deriving Repr

/-- The sets in the three places, whether bytes are shifted, and whether an escape sequence that is
not understood goes on. -/
structure State where
  first : CharacterSet
  second : CharacterSet
  third : CharacterSet
  shifted : Bool
  passing : Bool
  deriving DecidableEq, Repr

def State.initial : State := ⟨.ascii, .ascii, .ascii, false, false⟩

def isFinal (b : UInt8) : Bool := 0x40 ≤ b && b ≤ 0x5A

/-- How far an escape sequence extends: to the byte of an index, which is counted from the escape
byte; beyond the last byte; or further than any sequence does. -/
inductive Extent where
  | ends (index : Nat)
  | unended
  | endless
  deriving DecidableEq, Repr

/-- Looks for the final byte among sixteen. A prefix for revisions is passed over. -/
def extent (revisions : Bool) (index : Nat) (bs : List UInt8) : Extent :=
  if 16 ≤ index then .endless
  else match bs with
    | [] => .unended
    | b :: bs =>
      if isFinal b then .ends index
      else if revisions && b == 0x26 && bs.head? == some 0x40 then
        extent revisions (index + 3) (bs.drop 2)
      else extent revisions (index + 1) bs
termination_by bs.length
decreasing_by
  · rw [List.length_cons, List.length_drop]
    omega
  · rw [List.length_cons]
    omega

/-- The place that an escape sequence calls a set into, and the set. -/
inductive Place where
  | first
  | second
  | third
  deriving DecidableEq, Repr

def place? (v : Version) : Char → Option Place
  | '(' => some .first
  | ')' => some .second
  | '.' => if v.thirdPlace then some .third else none
  | _ => none

def single? (v : Version) (final : Char) : Option CharacterSet :=
  if final = 'B' then some .ascii else v.singles.lookup final

/-- The meaning of the bytes of an escape sequence after the escape byte. -/
def designation? (v : Version) (body : List Char) : Option (Place × CharacterSet) :=
  match body with
  | ['$', final] => (v.pairs.lookup final).map (.first, ·)
  | [mark, final] => do return (← place? v mark, ← single? v final)
  | ['$', '(', final] => (v.pairs.lookup final).map (.first, ·)
  | ['$', ')', final] => (v.pairs.lookup final).map (.second, ·)
  | [_, _, '\x1b', '$', 'B'] => if v.revisions then (v.pairs.lookup 'B').map (.first, ·) else none
  | _ => none

def State.designate (s : State) (place : Place) (set : CharacterSet) : State :=
  match place with
  | .first => { s with first := set }
  | .second => { s with second := set }
  | .third => { s with third := set }

def readDesignation (v : Version) (s : State) (bs : List UInt8) : Reading State :=
  match extent v.revisions 1 bs with
  | .unended => .incomplete bs
  | .endless => .illegal 1
  | .ends index =>
    match designation? v ((bs.take index).map fun b => Char.ofNat b.toNat) with
    | some (place, set) => .chars index [] (s.designate place set)
    | none => .illegal (index + 1)

/-- The one character of the third place. The Greek set is that of an earlier edition, without three
of the later one's characters, and its first half can be reached too. -/
def readThird (s : State) (b : UInt8) : Reading State :=
  let char (c? : Option Char) : Reading State :=
    match c? with
    | some c => .chars 2 [c] s
    | none => .illegal 3
  match s.third with
  | .latin1 => char (if b < 0x80 then some (Char.ofNat (b.toNat + 0x80)) else none)
  | .greek =>
    let b := b ^^^ 0x80
    if b = 0xA4 ∨ b = 0xA5 ∨ b = 0xAA then .illegal 3 else char (greekPage.char? b)
  | .ascii => char (if b < 0x80 then some (Char.ofNat b.toNat) else none)
  | _ => .unsupported
where
  greekPage : CodePage := ((CodePage.iso.find? (·.name == "iso8859_7")).map (·.entry)).getD ⟨""⟩

def readEscape (v : Version) (s : State) (bs : List UInt8) : Reading State :=
  match bs with
  | [] => .incomplete bs
  | b :: more =>
    if "().$&".toList.contains (Char.ofNat b.toNat) then readDesignation v s bs
    else if v.thirdPlace && b == 0x4E then
      match more with
      | c :: _ => readThird s c
      | [] => .incomplete bs
    else .chars 0 ['\x1b'] { s with passing := true }

def read (v : Version) (s : State) (b : UInt8) (bs : List UInt8) : Reading State :=
  let plain := Char.ofNat b.toNat
  if s.passing then .chars 0 [plain] { s with passing := !isFinal b }
  else if b = 0x1B then readEscape v s bs
  else if b = 0x0F && v.shifts then .chars 0 [] { s with shifted := false }
  else if b = 0x0E && v.shifts then .chars 0 [] { s with shifted := true }
  else if b = 0x0A then .chars 0 [plain] { s with shifted := false }
  else if b < 0x20 then .chars 0 [plain] s
  else if 0x80 ≤ b then .illegal 1
  else
    let set := if s.shifted then s.second else s.first
    match set.width, bs with
    | 1, _ => .ofChar s 0 (set.single? b)
    | _, [] => .incomplete bs
    | _, c :: _ =>
      match set.pair? b.toNat c.toNat with
      | some cs => .chars 1 cs s
      | none => .illegal 2

def decode (v : Version) (bs : List UInt8) : Except Undecodable (List Char) :=
  Reading.all v.decoder (read v) .initial 0 bs

/-! ### The versions -/

/-- The versions for Japanese have no shifts. -/
def japanese (decoder : String) (singles pairs : List (Char × CharacterSet)) : Version :=
  ⟨decoder, singles, pairs, false, false, true⟩

def jp : Version := japanese "iso2022_jp" [('J', .roman)] [('@', .jisX0208), ('B', .jisX0208)]

def jp1 : Version :=
  japanese "iso2022_jp_1" [('J', .roman)] [('@', .jisX0208), ('B', .jisX0208), ('D', .jisX0212)]

def jp2 : Version :=
  { japanese "iso2022_jp_2" [('A', .latin1), ('F', .greek), ('J', .roman)]
      [('@', .jisX0208), ('A', .gb2312), ('B', .jisX0208), ('C', .ksX1001), ('D', .jisX0212)] with
    thirdPlace := true }

def jp2004 : Version :=
  japanese "iso2022_jp_2004" []
    [('B', .jisX0208), ('P', .jisX0213Second), ('Q', .jisX0213 .of2004)]

def jp3 : Version :=
  japanese "iso2022_jp_3" []
    [('B', .jisX0208), ('O', .jisX0213 .of2000), ('P', .jisX0213Second)]

def jpExtended : Version :=
  japanese "iso2022_jp_ext" [('I', .katakana), ('J', .roman)]
    [('@', .jisX0208), ('B', .jisX0208), ('D', .jisX0212)]

def kr : Version := ⟨"iso2022_kr", [], [('C', .ksX1001)], true, false, false⟩

end DynLisp.Iso2022
