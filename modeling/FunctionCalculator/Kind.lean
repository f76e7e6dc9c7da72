import FunctionCalculator.Text.Basic
/-!
The kinds of parameters and results.
-/

set_option autoImplicit false

namespace FunctionCalculator

inductive Kind
  | int
  | double
  | intArray
  | boolean
  | other (name : Text)
  deriving DecidableEq, Repr

namespace Kind

def name : Kind → Text
  | .int => "int"
  | .double => "double"
  | .intArray => "int[]"
  | .boolean => "boolean"
  | .other name => name

def ofName (name : Text) : Kind :=
  if name = "int" then .int
  else if name = "double" then .double
  else if name = "int[]" then .intArray
  else if name = "boolean" then .boolean
  else .other name

-- The width in bytes of a parameter; an array counts as a reference.
def size? : Kind → Option Nat
  | .int => some 4
  | .double => some 8
  | .intArray => some 8
  | _ => none

end Kind
end FunctionCalculator
