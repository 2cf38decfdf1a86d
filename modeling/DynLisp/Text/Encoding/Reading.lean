import DynLisp.Text.Encoding.Fault

/-!
Decoders that read one character, or a few, from some bytes at a time. What the bytes mean may
depend on those before them; that is the state.
-/

namespace DynLisp

/-- What the next bytes turn out to be: characters, read from the first byte and `more` after it; a
fault of so many bytes; or a shift that leads nowhere. -/
inductive Reading (σ : Type) where
  | chars (more : Nat) (cs : List Char) (state : σ)
  | fault (length : Nat) (reason : DecodeReason)
  | unsupported

namespace Reading

variable {σ : Type}

/-- Reads from a first byte and those after it until none is left. -/
def all (decoder : String) (read : σ → UInt8 → List UInt8 → Reading σ) (state : σ)
    (position : Nat) : List UInt8 → Except Undecodable (List Char)
  | [] => .ok []
  | b :: bs =>
    match read state b bs with
    | .unsupported => .error .unsupported
    | .fault length reason => .error (.bytes ⟨decoder, position, length, b, reason⟩)
    | .chars more cs state => do
      let rest ← all decoder read state (position + 1 + more) (bs.drop more)
      return cs ++ rest
termination_by bs => bs.length
decreasing_by
  rw [List.length_cons, List.length_drop]
  omega

def illegal (length : Nat) : Reading σ := .fault length .illegalSequence

/-- More bytes are needed than follow the first. -/
def incomplete (bs : List UInt8) : Reading σ := .fault (1 + bs.length) .incompleteSequence

/-- The characters of a first byte and `more` after it; the first is at fault if there are none. -/
def ofChars (state : σ) (more : Nat) : Option (List Char) → Reading σ
  | some cs => .chars more cs state
  | none => illegal 1

def ofChar (state : σ) (more : Nat) (c? : Option Char) : Reading σ :=
  ofChars state more (c?.map ([·]))

end Reading

end DynLisp
