import FunctionCalculator.Binary64.Notation
import FunctionCalculator.Kind
/-!
The values of calls: how they are shown, and how the texts of arguments are read as values.
-/

set_option autoImplicit false

namespace FunctionCalculator

inductive Value
  | int (value : Int)
  | double (value : Binary64)
  | bool (value : Bool)
  | text (value : Text)
  deriving DecidableEq, Repr

def Value.shown : Value → Except Fault Text
  | .int value => Integer.written value
  | .double value => .ok value.text
  | .bool value => .ok (if value then "true" else "false")
  | .text value => .ok value

inductive Reading
  | integer
  | double
  | text
  deriving DecidableEq, Repr

namespace Reading

abbrev Carrier : Reading → Type
  | .integer => Int
  | .double => Binary64
  | .text => Text

def read? : (reading : Reading) → Text → Option reading.Carrier
  | .integer, argument => Integer.read? argument
  | .double, argument => Binary64.read? argument
  | .text, argument => some argument

def read (reading : Reading) (argument : Text) : Except Error reading.Carrier :=
  match reading.read? argument with
  | some value => .ok value
  | none => .error (.invalidNumber argument)

def value : (reading : Reading) → reading.Carrier → Value
  | .integer, value => .int value
  | .double, value => .double value
  | .text, value => .text value

def ofValue? : (reading : Reading) → Value → Option reading.Carrier
  | .integer, .int value => some value
  | .double, .double value => some value
  | .text, .text value => some value
  | _, _ => none

-- An array cannot be written as an argument, so one of its elements is read in its place.
def ofKind? : Kind → Option Reading
  | .int | .intArray => some .integer
  | .double => some .double
  | _ => none

def named? (name : Text) : Option Reading :=
  if name = "text" then some .text else ofKind? (Kind.ofName name)

end Reading
end FunctionCalculator
