import DynLisp.Text.Encoding.Fault

/-!
The Unicode encodings of one, two and four bytes a unit. Decoding stops at the first bytes that
stand for no character; overlong forms and surrogates stand for none.
-/

namespace DynLisp.Utf

def isContinuation (b : UInt8) : Bool := 0x80 ≤ b && b < 0xC0

/-- Bytes that may follow a leading byte; four leading bytes narrow them, against overlong forms,
surrogates and code points beyond the last. -/
def mayFollow (lead b : UInt8) : Bool :=
  isContinuation b && !(lead == 0xE0 && b < 0xA0) && !(lead == 0xED && 0xA0 ≤ b) &&
    !(lead == 0xF0 && b < 0x90) && !(lead == 0xF4 && 0x90 ≤ b)

def followers? (lead : UInt8) : Option Nat :=
  if lead < 0x80 then some 0
  else if lead < 0xC2 then none
  else if lead < 0xE0 then some 1
  else if lead < 0xF0 then some 2
  else if lead < 0xF5 then some 3
  else none

/-- The longest run of bytes, up to `count`, that may follow `lead`. -/
def continuation (lead : UInt8) (count : Nat) (bs : List UInt8) : List UInt8 :=
  match bs.take count with
  | [] => []
  | b :: rest => if mayFollow lead b then b :: rest.takeWhile isContinuation else []

def leadBits (lead : UInt8) : Nat → Nat
  | 0 => lead.toNat
  | 1 => lead.toNat % 0x20
  | 2 => lead.toNat % 0x10
  | _ => lead.toNat % 0x08

def decode8 (position : Nat) (bs : List UInt8) : Except DecodeFault (List Char) :=
  match bs with
  | [] => .ok []
  | lead :: rest =>
    let fault (length : Nat) (reason : DecodeReason) : Except DecodeFault (List Char) :=
      .error ⟨"utf-8", position, length, lead, reason⟩
    match followers? lead with
    | none => fault 1 .startByte
    | some count =>
      let found := continuation lead count rest
      if found.length = count then do
        let code := found.foldl (fun n b => 64 * n + b.toNat % 64) (leadBits lead count)
        let cs ← decode8 (position + 1 + count) (rest.drop count)
        return Char.ofNat code :: cs
      else if found.length = rest.length then fault (1 + found.length) .endOfData
      else fault (1 + found.length) .continuationByte
termination_by bs.length
decreasing_by
  rw [List.length_cons, List.length_drop]
  omega

inductive Order where
  | little
  | big
  deriving DecidableEq, Repr

def Order.unit (order : Order) (bs : List UInt8) : Nat :=
  match order with
  | little => bs.foldr (fun b n => 256 * n + b.toNat) 0
  | big => bs.foldl (fun n b => 256 * n + b.toNat) 0

def Order.decoder (order : Order) (width : String) : String :=
  "utf-" ++ width ++ match order with
    | little => "-le"
    | big => "-be"

def decode16 (order : Order) (position : Nat) : List UInt8 → Except DecodeFault (List Char)
  | [] => .ok []
  | [a] => .error ⟨order.decoder "16", position, 1, a, .truncated⟩
  | a :: b :: rest =>
    let unit := order.unit [a, b]
    let fault (length : Nat) (reason : DecodeReason) : Except DecodeFault (List Char) :=
      .error ⟨order.decoder "16", position, length, a, reason⟩
    if unit < 0xD800 || 0xE000 ≤ unit then do
      let cs ← decode16 order (position + 2) rest
      return Char.ofNat unit :: cs
    else if 0xDC00 ≤ unit then fault 2 .loneSurrogate
    else match rest with
      | c :: d :: rest =>
        let low := order.unit [c, d]
        if 0xDC00 ≤ low && low < 0xE000 then do
          let cs ← decode16 order (position + 4) rest
          return Char.ofNat (0x10000 + (unit - 0xD800) * 0x400 + (low - 0xDC00)) :: cs
        else fault 2 .brokenSurrogate
      | rest => fault (2 + rest.length) .endOfData

def decode32 (order : Order) (position : Nat) : List UInt8 → Except DecodeFault (List Char)
  | [] => .ok []
  | a :: b :: c :: d :: rest =>
    let code := order.unit [a, b, c, d]
    let fault (reason : DecodeReason) : Except DecodeFault (List Char) :=
      .error ⟨order.decoder "32", position, 4, a, reason⟩
    if 0xD800 ≤ code && code < 0xE000 then fault .surrogateCode
    else if 0x110000 ≤ code then fault .codeOutOfRange
    else do
      let cs ← decode32 order (position + 4) rest
      return Char.ofNat code :: cs
  | a :: rest => .error ⟨order.decoder "32", position, 1 + rest.length, a, .truncated⟩

/-- A signature at the front decides the order and is dropped; without one it is `little`. -/
def signed16 : List UInt8 → Except DecodeFault (List Char)
  | 0xFF :: 0xFE :: bs => decode16 .little 2 bs
  | 0xFE :: 0xFF :: bs => decode16 .big 2 bs
  | bs => decode16 .little 0 bs

def signed32 : List UInt8 → Except DecodeFault (List Char)
  | 0xFF :: 0xFE :: 0 :: 0 :: bs => decode32 .little 4 bs
  | 0 :: 0 :: 0xFE :: 0xFF :: bs => decode32 .big 4 bs
  | bs => decode32 .little 0 bs

/-- A signature at the front is dropped, and positions count from behind it. -/
def signed8 : List UInt8 → Except DecodeFault (List Char)
  | 0xEF :: 0xBB :: 0xBF :: bs => decode8 0 bs
  | bs => decode8 0 bs

end DynLisp.Utf
