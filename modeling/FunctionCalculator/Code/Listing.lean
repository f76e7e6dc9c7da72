import FunctionCalculator.Code.Template
import FunctionCalculator.Call
/-!
Listings of three-address code. Each right-hand side is put into the next temporary and the last
temporary into the result. A listing is complete or there is none.
-/

set_option autoImplicit false

namespace FunctionCalculator.Code

inductive Destination
  | temporary (index : Nat)
  | result
  deriving DecidableEq, Repr

def Destination.name : Destination → Text
  | .temporary index => Term.temporaryName index
  | .result => "result"

structure Instruction where
  destination : Destination
  term : Term Text
  deriving DecidableEq, Repr

def Instruction.sides (instruction : Instruction) : Text × Text :=
  (instruction.destination.name, instruction.term.text)

inductive Refusal
  | noName
  | unsupported (name : Text)
  | absentArgument
  -- The code needs an argument of this number, counted from zero.
  | missingArgument (index : Nat)
  deriving DecidableEq, Repr

def present? (arguments : List (Option Text)) : Option (List Text) := arguments.mapM id

def argument (arguments : List Text) (index : Nat) : Except Refusal Text :=
  match arguments[index]? with
  | some value => .ok value
  | none => .error (.missingArgument index)

def assign (arguments : List Text) : Nat → List (Term Nat) → Except Refusal (List Instruction)
  | index, [] => .ok [⟨.result, .temporary (index - 1)⟩]
  | index, term :: rest => do
    let term ← term.replace (argument arguments)
    let rest ← assign arguments (index + 1) rest
    return ⟨.temporary index, term⟩ :: rest

/-- The instructions of a call. The name is looked at first, then whether all arguments are there,
then the arguments that the code needs. -/
def emit (name : Option Text) (arguments : List (Option Text)) :
    Except Refusal (List Instruction) :=
  match name with
  | none => .error .noName
  | some name =>
    match Builtin.named? (resolve name) with
    | none => .error (.unsupported name.lower)
    | some builtin =>
      match present? arguments with
      | none => .error .absentArgument
      | some arguments => assign (arguments.map Text.trim) 1 (template builtin)

def render (code : List (Text × Text)) : Text :=
  code.flatMap fun sides => sides.1 ++ [' ', '=', ' '] ++ sides.2 ++ ['\n']

def Refusal.line : Refusal → Text
  | .unsupported name => (Error.unsupportedListing name).line ++ ['\n']
  | _ => Error.mark ++ "Invalid parameters." ++ ['\n']

def generate (name : Option Text) (arguments : List (Option Text)) : Text :=
  match emit name arguments with
  | .ok code => render (code.map Instruction.sides)
  | .error refusal => refusal.line

def ofCall (text : Text) : Except Error Text :=
  match Call.splitParentheses? text with
  | none => .error .invalidListingCall
  | some (header, inside) =>
    .ok (generate (some header.trim) ((Call.splitCommas inside).map some))

end FunctionCalculator.Code
