import FunctionCalculator.Text.Basic
/-!
What can go wrong, and the line that tells it.
-/

set_option autoImplicit false

namespace FunctionCalculator

inductive Fault
  | zeroRemainder
  | zeroQuotient
  | tooLargeForDouble
  | tooManyDigits
  | nestedTooDeeply
  deriving DecidableEq, Repr

def Fault.message : Fault → Text
  | .zeroRemainder => "integer modulo by zero"
  | .zeroQuotient => "integer division or modulo by zero"
  | .tooLargeForDouble => "int too large to convert to float"
  | .tooManyDigits =>
    "Exceeds the limit (4300 digits) for integer string conversion; use sys.set_int_max_str_digits() to increase the limit"
  | .nestedTooDeeply => "maximum recursion depth exceeded"

inductive CallGap
  | parentheses
  | name
  deriving DecidableEq, Repr

inductive Error
  | missingSemicolon
  | invalidDeclaration
  | invalidHeader
  | undefinedFunction (name : Text)
  | unknownFunction (name : Text)
  | invalidCall (gap : CallGap)
  | invalidListingCall
  | missingParameters
  | invalidNumber (argument : Text)
  | divisionByZero
  | moduloByZero
  | notImplemented (name : Text)
  | unsupportedListing (name : Text)
  | missingOperand
  | unexpected (lexeme : Text)
  | noOperator
  | fault (cause : Fault)
  deriving DecidableEq, Repr

namespace Error

def detail : Error → Text
  | .invalidCall .parentheses => " Correct format: functionName(param1, param2)"
  | .invalidCall .name => " No function name found."
  | .invalidNumber argument => argument
  | .notImplemented name => name
  | .missingOperand => "missing operand"
  | .unexpected lexeme => "unexpected '" ++ lexeme ++ "'"
  | _ => []

def message : Error → Text
  | .missingSemicolon => "Missing semicolon at the end."
  | .invalidDeclaration => "Invalid function declaration."
  | .invalidHeader => "Invalid header format."
  | .undefinedFunction name => "Undefined Function '" ++ name ++ "'"
  | .unknownFunction name => "Function '" ++ name ++ "' not recognized."
  | .invalidCall gap => "Invalid function format." ++ (Error.invalidCall gap).detail
  | .invalidListingCall => "Invalid function format."
  | .missingParameters => "Missing parameters."
  | .invalidNumber _ => "Invalid number format. Please enter valid numeric values."
  | .divisionByZero => "Division by zero."
  | .moduloByZero => "Modulo by zero."
  | .notImplemented _ => "Function implementation not available."
  | .unsupportedListing name => "Unsupported function '" ++ name ++ "'"
  | .missingOperand | .unexpected _ | .noOperator => "Invalid expression format."
  | .fault cause => cause.message

-- The label of an error in a log. A fault has none and is told by its message.
def label? : Error → Option Text
  | .missingSemicolon => some "MissingSemicolon"
  | .invalidDeclaration => some "InvalidDeclarationFormat"
  | .invalidHeader => some "InvalidHeaderFormat"
  | .undefinedFunction _ | .unknownFunction _ => some "UnknownFunction"
  | .invalidCall _ | .invalidListingCall => some "InvalidCallFormat"
  | .missingParameters => some "MissingParameters"
  | .invalidNumber _ => some "InvalidNumberFormat"
  | .divisionByZero => some "DivisionByZero"
  | .moduloByZero => some "ModuloByZero"
  | .notImplemented _ => some "NotImplementedFunction"
  | .unsupportedListing _ => some "UnsupportedTACFunction"
  | .missingOperand | .unexpected _ | .noOperator => some "InvalidExpression"
  | .fault _ => none

def mark : Text := "Error: "

def line (error : Error) : Text := mark ++ error.message

end Error
end FunctionCalculator
