/-!
String literals of the language. `Escape.encode` writes a text between double quotes;
`Escape.decode` undoes the escapes of a literal's body, and keeps a backslash before any character
that no escape names.
-/

namespace DynLisp.Escape

def encodeChar : Char → List Char
  | '\\' => ['\\', '\\']
  | '\"' => ['\\', '\"']
  | '\n' => ['\\', 'n']
  | '\t' => ['\\', 't']
  | '\r' => ['\\', 'r']
  | c => [c]

def encode (s : String) : String :=
  .ofList ('\"' :: s.toList.flatMap encodeChar ++ ['\"'])

def letter? : Char → Option Char
  | 'n' => some '\n'
  | 't' => some '\t'
  | 'r' => some '\r'
  | '\"' => some '\"'
  | '\\' => some '\\'
  | _ => none

def decodeChars : List Char → List Char
  | '\\' :: c :: cs =>
    match letter? c with
    | some d => d :: decodeChars cs
    | none => '\\' :: c :: decodeChars cs
  | c :: cs => c :: decodeChars cs
  | [] => []

def decode (s : String) : String := .ofList (decodeChars s.toList)

end DynLisp.Escape
