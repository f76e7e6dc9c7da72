import FunctionCalculator.Error
import FunctionCalculator.Text.Basic
/-!
Calls: a type word and a name, then arguments in parentheses.
-/

set_option autoImplicit false

namespace FunctionCalculator

structure Call where
  name : Text
  arguments : List Text
  deriving DecidableEq, Repr

namespace Call

def splitParentheses? (text : Text) : Option (Text × Text) :=
  let header := text.takeWhile (· ≠ '(')
  match text.dropWhile (· ≠ '(') with
  | [] => none
  | _ :: rest =>
    if ')' ∈ header ∨ ')' ∉ rest then none
    else some (header, rest.takeWhile (· ≠ ')'))

def splitCommas (text : Text) : List Text := Text.pieces (· = ',') text

def argumentsOf (inside : Text) : List Text :=
  let inside := inside.trim
  if inside = [] then [] else (splitCommas inside).map Text.trim

def dropSemicolon (text : Text) : Text :=
  if text.getLast? = some ';' then text.dropLast else text

def parse (text : Text) : Except Error Call :=
  match splitParentheses? (dropSemicolon text) with
  | none => .error (.invalidCall .parentheses)
  | some (header, inside) =>
    match Text.words header with
    | _ :: name :: _ => .ok ⟨name, argumentsOf inside⟩
    | _ => .error (.invalidCall .name)

end Call
end FunctionCalculator
