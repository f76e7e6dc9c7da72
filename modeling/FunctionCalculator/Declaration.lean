import FunctionCalculator.Builtin.Catalogue
import FunctionCalculator.Error
import FunctionCalculator.Text.Basic
/-!
Declarations: a type word and a name before an opening parenthesis, anything after it, and a
semicolon at the end. Only the outline and the name are checked.
-/

set_option autoImplicit false

namespace FunctionCalculator.Declaration

def header (text : Text) : Text := text.takeWhile (· ≠ '(')

def check (text : Text) : Except Error Text :=
  if text.getLast? ≠ some ';' then .error .missingSemicolon
  else if '(' ∉ text then .error .invalidDeclaration
  else
    match Text.words (header text) with
    | [_, name] =>
      if (Registry.standard.lookup name).isSome then .ok name
      else .error (.undefinedFunction name)
    | _ => .error .invalidHeader

def report (text : Text) : Text :=
  match check text with
  | .ok name => "Function '" ++ name ++ "' compiled successfully."
  | .error error => error.line

end FunctionCalculator.Declaration
