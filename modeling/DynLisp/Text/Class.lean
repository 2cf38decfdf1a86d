import DynLisp.Text.Runs

/-!
Classes of characters that the reader and the printer tell apart.
-/

namespace DynLisp

def blankRuns : List (Nat × Nat) := [(9, 13), (28, 32), (133, 133), (160, 160), (5760, 5760),
  (8192, 8202), (8232, 8233), (8239, 8239), (8287, 8287), (12288, 12288)]

/-- White space, as source text and settings are trimmed and split by. -/
def isBlank (c : Char) : Bool := inRuns blankRuns c.toNat

def digitValue? (c : Char) : Option Nat :=
  (digitZeros.find? fun start => start ≤ c.toNat && c.toNat < start + 10).map (c.toNat - ·)

def isDigit (c : Char) : Bool := (digitValue? c).isSome

def isWord (c : Char) : Bool := c == '_' || inRuns alphanumericRuns c.toNat

def isPrintable (c : Char) : Bool := !inRuns unprintableRuns c.toNat

def strip (s : String) : String :=
  .ofList ((s.toList.dropWhile isBlank).reverse.dropWhile isBlank).reverse

end DynLisp
