import FunctionCalculator.Builtin.Meaning
/-!
Evaluating a builtin on the texts of its arguments.
-/

set_option autoImplicit false

namespace FunctionCalculator

def Meaning.onTexts : (readings : List Reading) → Meaning readings → List Text →
    Except Error Value
  | [], result, _ => result
  | _ :: _, _, [] => .error .missingParameters
  | reading :: rest, function, argument :: arguments =>
    match reading.read argument with
    | .ok value => onTexts rest (function value) arguments
    | .error error => .error error

def Meaning.onValues? : (readings : List Reading) → Meaning readings → List Value →
    Option (Except Error Value)
  | [], result, _ => some result
  | _ :: _, _, [] => none
  | reading :: rest, function, argument :: arguments =>
    (reading.ofValue? argument).bind fun value => onValues? rest (function value) arguments

namespace Evaluation

def shown (result : Except Error Value) : Except Error Text :=
  match result with
  | .ok value => value.shown.mapError .fault
  | .error error => .error error

/-- The shown value of a builtin on argument texts, when only some builtins are available. An
unknown name is found first, then too few arguments, then a builtin that is not available. -/
def evaluateAmong (available : Builtin → Bool) (name : Text) (arguments : List Text) :
    Except Error Text :=
  match Builtin.find? name with
  | none => .error (.unknownFunction name)
  | some builtin =>
    if arguments.length < builtin.arity then .error .missingParameters
    else if available builtin then
      shown (Meaning.onTexts builtin.readings builtin.meaning arguments)
    else .error (.notImplemented builtin.name)

def evaluate (name : Text) (arguments : List Text) : Except Error Text :=
  evaluateAmong (fun _ => true) name arguments

end Evaluation
end FunctionCalculator
