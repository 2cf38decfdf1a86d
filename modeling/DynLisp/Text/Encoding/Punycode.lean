import DynLisp.Text.Encoding.CodePage.Basic

/-!
Texts spelt in letters, digits and hyphens. The ASCII characters come first, as they are. The others
follow in the order of their code points, as numbers that tell how far each is from the one before;
numbers are written in a base of which the digits' weights adapt to them.
-/

namespace DynLisp.Punycode

/-- The digit after which a number may end must be less than the threshold of its place. -/
def threshold (bias place : Nat) : Nat :=
  if 36 * (place + 1) < bias + 1 then 1 else min 26 (36 * (place + 1) - bias)

theorem thresholdPositive (bias place : Nat) : 1 ≤ threshold bias place := by
  unfold threshold
  split
  · exact Nat.le_refl 1
  · omega

theorem thresholdBound (bias place : Nat) : threshold bias place ≤ 26 := by
  unfold threshold
  split <;> omega

def scale (delta : Nat) : Nat × Nat :=
  if 455 < delta then
    let (small, shift) := scale (delta / 35)
    (small, shift + 36)
  else (delta, 0)
termination_by delta
decreasing_by exact Nat.div_lt_self (by omega) (by omega)

/-- The bias after a number that placed a character among so many. -/
def adapt (delta : Nat) (isFirst : Bool) (count : Nat) : Nat :=
  let damped := if isFirst then delta / 700 else delta / 2
  let (small, shift) := scale (damped + damped / count)
  shift + 36 * small / (small + 38)

/-! ### Reading -/

def digit? (c : Char) : Option Nat :=
  if 'A' ≤ c ∧ c ≤ 'Z' then some (c.toNat - 65)
  else if '0' ≤ c ∧ c ≤ '9' then some (c.toNat - 22)
  else none

/-- A number, from the digit of a place on, and what follows it. -/
def readNumber (bias : Nat) (place weight total : Nat) :
    List Char → Except Refusal (Nat × List Char)
  | [] => .error .openNumber
  | c :: cs =>
    match digit? c with
    | none => .error (.notDigit c)
    | some d =>
      let total := total + d * weight
      let t := threshold bias place
      if d < t then .ok (total, cs) else readNumber bias (place + 1) (weight * (36 - t)) total cs

theorem readNumberShortens {bias place weight total : Nat} {cs rest : List Char} {n : Nat}
    (read : readNumber bias place weight total cs = .ok (n, rest)) : rest.length < cs.length := by
  induction cs generalizing place weight total with
  | nil => simp [readNumber] at read
  | cons c cs ih =>
    simp only [readNumber] at read
    split at read
    · cases read
    · split at read
      · cases read
        exact Nat.lt_succ_self _
      · exact Nat.lt_succ_of_lt (ih read)

/-- Places characters among those found before. `code` is the code point of the last one placed, and
`next` the place after it. -/
def insertAll (code next bias : Nat) (isFirst : Bool) (found : List Nat) (cs : List Char) :
    Except Refusal (List Nat) :=
  match cs with
  | [] => .ok found
  | c :: more =>
    match _ : readNumber bias 0 1 0 (c :: more) with
    | .error refusal => .error refusal
    | .ok (delta, rest) =>
      let count := found.length + 1
      let code := code + (next + delta) / count
      let place := (next + delta) % count
      if 0x110000 ≤ code then .error (.beyondLast code)
      else
        insertAll code (place + 1) (adapt delta isFirst count) false
          (found.take place ++ code :: found.drop place) rest
termination_by cs.length
decreasing_by exact readNumberShortens ‹_›

def ascii (bs : List UInt8) : Except Undecodable (List Char) :=
  (CodePage.decodeEach "ascii" .notAscii CodePage.asciiChar? 0 bs).mapError .bytes

/-- What comes before the last hyphen, and after it. -/
def splitLast (bs : List UInt8) : List UInt8 × List UInt8 :=
  let last := (bs.reverse.takeWhile (· != 0x2D)).reverse
  if last.length = bs.length then ([], bs) else (bs.take (bs.length - last.length - 1), last)

/-- The code points of a text, from its spelling. The case of digits does not count. -/
def decode (bs : List UInt8) : Except Undecodable (List Nat) := do
  let (plain, numbers) := splitLast bs
  let plain ← ascii plain
  let numbers ← ascii numbers
  (insertAll 0x80 0 72 true (plain.map Char.toNat) (numbers.map Char.toUpper)).mapError .text

/-! ### Writing -/

def digitChar (d : Nat) : Char := Char.ofNat (if d < 26 then 97 + d else 22 + d)

def writeNumber (bias place n : Nat) : List Char :=
  let t := threshold bias place
  if n < t then [digitChar n]
  else digitChar (t + (n - t) % (36 - t)) :: writeNumber bias (place + 1) ((n - t) / (36 - t))
termination_by n
decreasing_by
  have positive := thresholdPositive bias place
  have bound := thresholdBound bias place
  calc (n - threshold bias place) / (36 - threshold bias place)
      ≤ n - threshold bias place := Nat.div_le_self _ _
    _ < n := by omega

/-- What has been written, how far the last character is behind, the bias, and how many characters
have been dealt with. -/
structure Writer where
  written : List Char
  delta : Nat
  bias : Nat
  done : Nat
  isFirst : Bool
  deriving Repr

/-- Passes over a character of the text, or writes it, if it is of the code point in turn. -/
def Writer.visit (code : Nat) (w : Writer) (c : Nat) : Writer :=
  if c < code then { w with delta := w.delta + 1 }
  else if c = code then
    ⟨w.written ++ writeNumber w.bias 0 w.delta, 0, adapt w.delta w.isFirst (w.done + 1), w.done + 1,
      false⟩
  else w

/-- Writes the characters of the code points in turn, which ascend; `last` is the one before. -/
def Writer.visitAll (text : List Nat) (last : Nat) (w : Writer) : List Nat → Writer
  | [] => w
  | code :: codes =>
    let w := { w with delta := w.delta + (code - last) * (w.done + 1) }
    let w := text.foldl (Writer.visit code) w
    visitAll text (code + 1) { w with delta := w.delta + 1 } codes

/-- The spelling of a text that is not all ASCII. -/
def encode (text : List Nat) : List Char :=
  let plain := text.filter (· < 0x80)
  let codes := (text.filter (0x80 ≤ ·)).mergeSort (· ≤ ·) |>.eraseDups
  let w := Writer.visitAll text 0x80 ⟨[], 0, 72, plain.length, true⟩ codes
  plain.map Char.ofNat ++ (if plain.isEmpty then [] else ['-']) ++ w.written

end DynLisp.Punycode
