import FunctionCalculator.Text.Basic
/-!
Tokens of declarations and calls. Blank characters separate, the four delimiters are tokens of
their own, and every longest run of other characters is a type word, an identifier or nothing.
-/

set_option autoImplicit false

namespace FunctionCalculator

inductive TokenKind
  | typeWord
  | identifier
  | leftParenthesis
  | rightParenthesis
  | comma
  | semicolon
  deriving DecidableEq, Repr

structure Token where
  text : Text
  kind : TokenKind
  deriving DecidableEq, Repr

namespace TokenKind

def name : TokenKind → Text
  | .typeWord => "TYPE_KEYWORD"
  | .identifier => "IDENTIFIER"
  | .leftParenthesis => "LPAREN"
  | .rightParenthesis => "RPAREN"
  | .comma => "COMMA"
  | .semicolon => "SEMICOLON"

def label : TokenKind → Text
  | .typeWord => "KT"
  | .identifier => "IT"
  | .leftParenthesis | .rightParenthesis | .semicolon => "DT"
  | .comma => "SCT"

end TokenKind

namespace Token

def delimiter? (c : Char) : Option TokenKind :=
  if c = '(' then some .leftParenthesis
  else if c = ')' then some .rightParenthesis
  else if c = ',' then some .comma
  else if c = ';' then some .semicolon
  else none

def inChunk (c : Char) : Bool := !Text.isBlank c && (delimiter? c).isNone

def isTypeWord (chunk : Text) : Bool :=
  chunk = "int" || chunk = "double" || chunk = "boolean"

def isWordChar (c : Char) : Bool := c.isAlphanum || c = '_'

def ofChunk? (chunk : Text) : Option Token :=
  if isTypeWord chunk then some ⟨chunk, .typeWord⟩
  else if chunk.all isWordChar then some ⟨chunk, .identifier⟩
  else none

-- The blank characters that are passed over before anything is tried at a place.
def isSkipped (c : Char) : Bool :=
  c = ' ' || c = '\t' || c = '\r' || c = '\n' || c = '\x0c' || c = '\x0b'

-- At each place a run is tried first and a delimiter next; a character of neither is dropped.
def scan : Text → List Token
  | [] => []
  | c :: rest =>
    if isSkipped c then scan rest
    else if inChunk c then
      (ofChunk? (c :: rest.takeWhile inChunk)).toList ++ scan (rest.dropWhile inChunk)
    else
      match delimiter? c with
      | some kind => ⟨[c], kind⟩ :: scan rest
      | none => scan rest
termination_by text => text.length
decreasing_by
  · simp
  · exact Nat.lt_succ_of_le (List.dropWhile_suffix _).length_le
  · simp
  · simp

def traceLine (token : Token) : Text :=
  "Token: " ++ token.text ++ " -> " ++ token.kind.label ++ ['\n']

def trace (text : Text) : Text :=
  "Function Declaration: " ++ text ++ ['\n'] ++ (scan text).flatMap traceLine

end Token
end FunctionCalculator
