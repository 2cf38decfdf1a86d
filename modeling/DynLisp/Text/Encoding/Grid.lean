/-!
Character sets as tables: rows of cells, each of which has a character or is empty.
-/

namespace DynLisp

/-- Neighbouring rows, from the one of that number on. All of them start with the cell of one number.
A space is an empty cell, and so are the cells after a row's last. -/
structure Grid where
  firstRow : Nat
  firstCell : Nat
  rows : List String
  deriving Repr

def Grid.char? (g : Grid) (row cell : Nat) : Option Char :=
  if row < g.firstRow || cell < g.firstCell then none
  else match g.rows[row - g.firstRow]? with
    | none => none
    | some cells => (cells.toList[cell - g.firstCell]?).filter (· != ' ')

/-- Neighbouring cells of one row, all of which have characters. -/
structure Span where
  row : Nat
  firstCell : Nat
  cells : String
  deriving Repr

def Span.char? (s : Span) (row cell : Nat) : Option Char :=
  if row = s.row ∧ s.firstCell ≤ cell then s.cells.toList[cell - s.firstCell]? else none

def Span.find? (spans : List Span) (row cell : Nat) : Option Char :=
  spans.findSome? fun s => s.char? row cell

/-- Numbers in order, without those of a first list, which has them in the same order. -/
def without : List Nat → List Nat → List Nat
  | [], numbers => numbers
  | _, [] => []
  | x :: xs, n :: numbers => if x = n then without xs numbers else n :: without (x :: xs) numbers

end DynLisp
