import DynLisp.Text.Class

/-!
Texts as error messages and inspections quote them: between single quotes, or between double ones if
the text holds a single quote and no double one; characters that cannot be shown are given by code
point.
-/

namespace DynLisp.Quoted

def hex (width n : Nat) : List Char :=
  let ds := Nat.toDigits 16 n
  List.replicate (width - ds.length) '0' ++ ds

def encodeChar (mark c : Char) : List Char :=
  if c == mark || c == '\\' then ['\\', c]
  else match c with
    | '\n' => ['\\', 'n']
    | '\r' => ['\\', 'r']
    | '\t' => ['\\', 't']
    | c =>
      if isPrintable c then [c]
      else if c.toNat < 0x100 then '\\' :: 'x' :: hex 2 c.toNat
      else if c.toNat < 0x10000 then '\\' :: 'u' :: hex 4 c.toNat
      else '\\' :: 'U' :: hex 8 c.toNat

def encode (s : String) : String :=
  let cs := s.toList
  let mark := if cs.contains '\'' && !cs.contains '\"' then '\"' else '\''
  .ofList (mark :: cs.flatMap (encodeChar mark) ++ [mark])

end DynLisp.Quoted
