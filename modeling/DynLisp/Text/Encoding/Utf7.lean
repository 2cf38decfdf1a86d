import DynLisp.Text.Encoding.Utf

/-!
The form of Unicode for channels of seven bits. ASCII characters stand for themselves, except for the
plus sign, which opens a section of 16-bit units in base 64; a minus sign, or anything else that is no
digit, closes it.
-/

namespace DynLisp.Utf7

def digit? (b : UInt8) : Option Nat :=
  let n := b.toNat
  if 65 ≤ n ∧ n ≤ 90 then some (n - 65)
  else if 97 ≤ n ∧ n ≤ 122 then some (n - 71)
  else if 48 ≤ n ∧ n ≤ 57 then some (n + 4)
  else if n = 43 then some 62
  else if n = 47 then some 63
  else none

/-- A section that was opened at `start`: the last `count` bits that make no unit yet, and a high
surrogate that waits for its other half. -/
structure Section where
  start : Nat
  count : Nat
  bits : Nat
  high? : Option Nat
  deriving DecidableEq, Repr

inductive Mode where
  | direct
  | opened (start : Nat)
  | shifted (s : Section)
  deriving DecidableEq, Repr

def fault (start stop : Nat) (b : UInt8) (reason : DecodeReason) : DecodeFault :=
  ⟨"utf7", start, stop - start, b, reason⟩

/-- Half of a pair has no character of its own. -/
def loose (high? : Option Nat) : List Char := high?.toList.map fun _ => Char.ofNat 0xFFFD

def Section.unit (s : Section) (unit : Nat) : List Char × Section :=
  match s.high? with
  | some high =>
    if 0xDC00 ≤ unit ∧ unit < 0xE000 then
      ([Char.ofNat (0x10000 + (high - 0xD800) * 0x400 + (unit - 0xDC00))], { s with high? := none })
    else
      let (cs, s) := alone
      (loose (some high) ++ cs, s)
  | none => alone
where
  alone : List Char × Section :=
    if 0xD800 ≤ unit ∧ unit < 0xDC00 then ([], { s with high? := some unit })
    else if 0xDC00 ≤ unit ∧ unit < 0xE000 then (loose (some unit), { s with high? := none })
    else ([Char.ofNat unit], { s with high? := none })

def Section.feed (s : Section) (digit : Nat) : List Char × Section :=
  let bits := s.bits * 64 + digit
  let count := s.count + 6
  if count < 16 then ([], { s with count := count, bits := bits })
  else
    let left := count - 16
    { s with count := left, bits := bits % (1 <<< left) }.unit (bits >>> left)

def readDirect (position : Nat) (b : UInt8) : Except DecodeFault (List Char × Mode) :=
  if b = 43 then .ok ([], .opened position)
  else if b < 0x80 then .ok ([Char.ofNat b.toNat], .direct)
  else .error (fault position (position + 1) b .specialCharacter)

/-- A byte that is no digit closes a section, which must not end within a character. The bits that
fill up its last digit must be zero. -/
def Section.close (s : Section) (position : Nat) (b : UInt8) :
    Except DecodeFault (List Char × Mode) :=
  if 6 ≤ s.count then .error (fault s.start (position + 1) 43 .partialCharacter)
  else if s.bits ≠ 0 then .error (fault s.start (position + 1) 43 .paddingBits)
  else if b = 45 then .ok (loose s.high?, .direct)
  else do
    let (cs, mode) ← readDirect position b
    return (loose s.high? ++ cs, mode)

def step (position : Nat) (b : UInt8) : Mode → Except DecodeFault (List Char × Mode)
  | .direct => readDirect position b
  | .opened start =>
    if b = 45 then .ok (['+'], .direct)
    else match digit? b with
      | none => .error (fault start (position + 1) 43 .illFormed)
      | some d =>
        let (cs, s) := Section.feed ⟨start, 0, 0, none⟩ d
        .ok (cs, .shifted s)
  | .shifted s =>
    match digit? b with
    | none => s.close position b
    | some d =>
      let (cs, s) := s.feed d
      .ok (cs, .shifted s)

/-- The input may end within a section, if nothing is left over in it. -/
def finish (position : Nat) : Mode → Except DecodeFault (List Char)
  | .shifted s =>
    if s.high?.isSome || 6 ≤ s.count || s.bits != 0 then
      .error (fault s.start position 43 .openShift)
    else .ok []
  | _ => .ok []

def decodeFrom (mode : Mode) (position : Nat) : List UInt8 → Except DecodeFault (List Char)
  | [] => finish position mode
  | b :: bs => do
    let (cs, mode) ← step position b mode
    let rest ← decodeFrom mode (position + 1) bs
    return cs ++ rest

def decode (bs : List UInt8) : Except DecodeFault (List Char) := decodeFrom .direct 0 bs

end DynLisp.Utf7
