import FunctionCalculator.Code.Listing
import FunctionCalculator.Declaration
import FunctionCalculator.Evaluation
import FunctionCalculator.Expression.Display
import FunctionCalculator.Text.Quoted
import FunctionCalculator.Token
/-!
The five operations on a source text. Running one always gives a text to show, and a failure gives
the line of its error.
-/

set_option autoImplicit false

namespace FunctionCalculator

inductive Operation
  | validate
  | tokens
  | evaluate
  | listing
  | tree
  deriving DecidableEq, Repr

namespace Operation

def all : List Operation := [.validate, .tokens, .evaluate, .listing, .tree]

def name : Operation → Text
  | .validate => "validate"
  | .tokens => "tokens"
  | .evaluate => "eval"
  | .listing => "tac"
  | .tree => "tree"

def named? (name : Text) : Option Operation := all.find? (·.name = name)

def label : Operation → Text
  | .validate => "VALIDATE"
  | .tokens => "TOKENIZE"
  | .evaluate => "EVALUATE"
  | .listing => "GENERATE_TAC"
  | .tree => "DISPLAY_EXPRESSION_TREE"

def blankMessage : Operation → Text
  | .validate => Error.mark ++ "Empty input."
  | .tokens => Error.mark ++ "No function to tokenize."
  | .evaluate => Error.mark ++ "No function to implement."
  | .listing => Error.mark ++ "No function to generate TAC from."
  | .tree => Error.mark ++ "Invalid expression format."

def evaluateCall (text : Text) : Except Error Text := do
  let call ← Call.parse text
  let shown ← Evaluation.evaluate call.name call.arguments
  return "Result: " ++ shown

/-- An operation on a trimmed text that is not empty. Validating never fails, it reports. -/
def attempt : Operation → Text → Except Error Text
  | .validate, text => .ok (Declaration.report text)
  | .tokens, text => .ok (Token.trace text)
  | .evaluate, text => evaluateCall text
  | .listing, text => Code.ofCall text
  | .tree, text => Expression.display text

def run (operation : Operation) (source : Text) : Text :=
  let text := source.trim
  if text = [] then operation.blankMessage
  else
    match operation.attempt text with
    | .ok shown => shown
    | .error error => error.line

def log (operation : Operation) (source : Text) : List Text :=
  let text := source.trim
  if text = [] then []
  else
    (operation.label ++ [':', ' '] ++ text.quoted) ::
      match operation.attempt text with
      | .ok _ => []
      | .error error =>
        match error.label? with
        | some label => [operation.label ++ " failed: " ++ label]
        | none => [operation.label ++ " arithmetic fault: " ++ error.message]

end Operation
end FunctionCalculator
