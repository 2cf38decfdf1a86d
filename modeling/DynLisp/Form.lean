import DynLisp.Fault
import DynLisp.Token.Lexer

/-!
Forms from tokens. The reader takes one token after another and keeps what is still open: lists and
braces with the items read so far, and quotes that wait for their payload. Braces are a quoted list.
-/

namespace DynLisp

namespace Token

def hexValue? (c : Char) : Option Nat :=
  if '0' ≤ c && c ≤ '9' then some (c.toNat - '0'.toNat)
  else if 'a' ≤ c && c ≤ 'f' then some (c.toNat - 'a'.toNat + 10)
  else if 'A' ≤ c && c ≤ 'F' then some (c.toNat - 'A'.toNat + 10)
  else none

def hexNumber (literal : String) : Except Fault Number := do
  let digits := literal.toList.drop 1
  if digits.isEmpty || !digits.all (fun c => (hexValue? c).isSome) then
    throw (.lisp (.invalidHex literal))
  let n := digits.foldl (fun n c => 16 * n + (hexValue? c).getD 0) 0
  let x := Number.ofNat n
  if x.isFinite then return x else throw (.host .integerTooLarge)

def atom (t : Token) : Except Fault Value :=
  match t.kind with
  | .hex => .number <$> hexNumber t.text
  | .number =>
    match Number.ofText? t.text with
    | some x => .ok (.number x)
    | none => .error (.host (.badNumeral t.text))
  | .string => .ok (.text (Escape.decode (.ofList (t.text.toList.drop 1).dropLast)))
  | _ => .ok (.symbol t.text)

end Token

namespace Form

/-- Something begun and not yet complete; items stand in reverse. -/
inductive Open where
  | list (items : List Value)
  | brace (items : List Value)
  | quote
  deriving Repr

/-- Either a form is complete, or these are open, the innermost first. -/
inductive Progress where
  | complete (form : Value)
  | waiting (opened : List Open)
  deriving Repr

def settle (form : Value) : List Open → Progress
  | [] => .complete form
  | .list items :: opened => .waiting (.list (form :: items) :: opened)
  | .brace items :: opened => .waiting (.brace (form :: items) :: opened)
  | .quote :: opened => settle (.quote form) opened

def feed (opened : List Open) (t : Token) : Except Fault Progress :=
  match t.kind, opened with
  | .openList, _ => .ok (.waiting (.list [] :: opened))
  | .openBrace, _ => .ok (.waiting (.brace [] :: opened))
  | .quote, _ => .ok (.waiting (.quote :: opened))
  | .closeList, .list items :: rest => .ok (settle (.list items.reverse) rest)
  | .closeBrace, .brace items :: rest => .ok (settle (.quote (.list items.reverse)) rest)
  | .closeList, _ | .closeBrace, _ => .error (.lisp (.invalidDelimiter t.text))
  | _, _ => do
    let form ← t.atom
    return settle form opened

def endFault : List Open → Fault
  | .quote :: _ => .lisp .unclosedQuote
  | _ => .lisp .unclosedList

/-- Reads one form, or the rest of one; the tokens after it, or after the one at fault, remain. -/
def readFrom (opened : List Open) : List Token → Except Fault Value × List Token
  | [] => (.error (endFault opened), [])
  | t :: ts =>
    match feed opened t with
    | .error fault => (.error fault, ts)
    | .ok (.complete form) => (.ok form, ts)
    | .ok (.waiting opened) => readFrom opened ts

def read (ts : List Token) : Except Fault Value × List Token := readFrom [] ts

def readAllFrom (opened : List Open) : List Token → Except Fault (List Value) × List Token
  | [] => (if opened.isEmpty then .ok [] else .error (endFault opened), [])
  | t :: ts =>
    match feed opened t with
    | .error fault => (.error fault, ts)
    | .ok (.complete form) =>
      let (forms, rest) := readAllFrom [] ts
      ((form :: ·) <$> forms, rest)
    | .ok (.waiting opened) => readAllFrom opened ts

def readAll (ts : List Token) : Except Fault (List Value) × List Token := readAllFrom [] ts

def parse (source : String) : Except Fault (List Value) :=
  match lex source with
  | [] => .error (.lisp .noForms)
  | ts => (readAll ts).1

end Form

end DynLisp
