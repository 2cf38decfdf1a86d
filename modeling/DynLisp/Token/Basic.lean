/-!
Tokens: the kind of a lexeme and its text, delimiters and quotes of strings included.
-/

namespace DynLisp

inductive TokenKind where
  | string
  | hex
  | number
  | symbol
  | openList
  | closeList
  | openBrace
  | closeBrace
  | operator
  | quote
  /-- A kind that no lexeme has; such a token, put in by hand, reads as a symbol. -/
  | other (name : String)
  deriving DecidableEq, Repr

def TokenKind.name : TokenKind → String
  | string => "string"
  | hex => "hex"
  | number => "number"
  | symbol => "symbol"
  | openList => "lparen"
  | closeList => "rparen"
  | openBrace => "lbrace"
  | closeBrace => "rbrace"
  | operator => "operator"
  | quote => "quote"
  | other name => name

def TokenKind.ofName : String → TokenKind
  | "string" => string
  | "hex" => hex
  | "number" => number
  | "symbol" => symbol
  | "lparen" => openList
  | "rparen" => closeList
  | "lbrace" => openBrace
  | "rbrace" => closeBrace
  | "operator" => operator
  | "quote" => quote
  | name => other name

structure Token where
  kind : TokenKind
  text : String
  deriving DecidableEq, Repr

end DynLisp
