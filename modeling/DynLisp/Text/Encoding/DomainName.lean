import DynLisp.Text.Encoding.Label.Prepare
import DynLisp.Text.Encoding.Punycode

/-!
Names of hosts: labels with dots between them. A label that is not ASCII is spelt behind a prefix. The
spelling must be the one that the text of the label has.
-/

namespace DynLisp.DomainName

def isAscii (text : List Nat) : Bool := text.all (· < 0x80)

def sized (spelling : List Char) : Except Refusal (List Char) :=
  if 0 < spelling.length ∧ spelling.length < 64 then .ok spelling else .error .labelSize

/-- The spelling of a label. -/
def spell (text : List Nat) : Except Refusal (List Char) := do
  if isAscii text then sized (text.map Char.ofNat)
  else
    let text ← Label.prepare text
    let plain := text.map Char.ofNat
    if isAscii text then sized plain
    else if "xn--".toList.isPrefixOf plain then .error .prefixed
    else sized ("xn--".toList ++ Punycode.encode text)

/-- No bytes are the empty text, which is found before any encoding is asked. -/
def decodePunycode (bs : List UInt8) : Except Undecodable (List Nat) :=
  if bs.isEmpty then .ok []
  else (Punycode.decode bs).mapError fun
    | .text refusal => .text (.part "punycode" refusal)
    | e => e

def acePrefix : List UInt8 := [0x78, 0x6E, 0x2D, 0x2D]

def decodeLabel (bs : List UInt8) : Except Undecodable (List Nat) := do
  if !acePrefix.isPrefixOf bs then
    return (← Punycode.ascii bs).map Char.toNat
  let text ← decodePunycode (bs.drop 4)
  let spelling ← (spell text).mapError .text
  let given := bs.map fun b => Char.ofNat b.toNat
  if given.map Char.toLower = spelling then return text
  else throw (.unfaithful (.ofList given) (.ofList spelling))

/-- The labels between dots, the last of which may be empty. -/
def labels (bs : List UInt8) : List (List UInt8) := bs.splitOn 0x2E

def isWithin (part : List UInt8) : List UInt8 → Bool
  | [] => part.isEmpty
  | b :: bs => part.isPrefixOf (b :: bs) || isWithin part bs

def decodeLabels (bs : List UInt8) : Except Undecodable (List Nat) := do
  let parts := labels bs
  let isClosed := parts.getLast?.any List.isEmpty
  let texts ← (if isClosed then parts.dropLast else parts).mapM decodeLabel
  return [0x2E].intercalate texts ++ if isClosed then [0x2E] else []

/-- What is half of a pair only has no character of its own. -/
def character (code : Nat) : Char :=
  if 0xD800 ≤ code ∧ code < 0xE000 then Char.ofNat 0xFFFD else Char.ofNat code

/-- Without a prefix anywhere, ASCII text stands for itself. -/
def decode (bs : List UInt8) : Except Undecodable (List Char) :=
  if !isWithin acePrefix bs && bs.all (· < 0x80) then .ok (bs.map fun b => Char.ofNat b.toNat)
  else (decodeLabels bs).map (List.map character)

/-- The encoding of one label on its own, without a prefix. -/
def punycode (bs : List UInt8) : Except Undecodable (List Char) :=
  (Punycode.decode bs).map (List.map character)

end DynLisp.DomainName
