import FunctionCalculator.Evaluation
import FunctionCalculator.Proofs.Binary64.Notation
/-!
The value of a call is shown on one line. No builtin gives back a text, so that what is shown is a
number or a truth value.
-/

set_option autoImplicit false

namespace FunctionCalculator.Evaluation

def Scalar (result : Except Error Value) : Prop := ∀ text, result ≠ .ok (.text text)

def Always (property : Except Error Value → Prop) :
    (readings : List Reading) → Meaning readings → Prop
  | [], result => property result
  | _ :: rest, function => ∀ argument, Always property rest (function argument)

section Builtins

theorem scalar_error (error : Error) : Scalar (.error error) := nofun

theorem scalar_checked {α : Type} {wrap : α → Value}
    (plain : ∀ value text, wrap value ≠ .text text) (result : Except Fault α) :
    Scalar (Builtin.checked wrap result) := by
  cases result with
  | error cause => exact scalar_error (.fault cause)
  | ok value => exact fun text same => plain value text (Except.ok.inj same)

theorem scalar_unless {undefined : Prop} [Decidable undefined] {error : Error}
    {result : Except Error Value} (scalar : Scalar result) :
    Scalar (if undefined then .error error else result) := by
  split
  · exact scalar_error error
  · exact scalar

theorem scalar_meaning (builtin : Builtin) : Always Scalar builtin.readings builtin.meaning := by
  cases builtin with
  | increment | decrement | isPrime | absoluteValue | isPositive | sumOfDigits | sumOfSquares
  | isEven | isOdd | squareRoot | cubeRoot | halfValue | doubleValue | sin | cos | tan | cot | sec
  | cosec | ceil | floor | round | degreesToRadians | radiansToDegrees | areaOfSquare
  | areaOfCircle | isPalindrome => exact fun _ => nofun
  | add | subtract | multiply | findMax | findMin | gcd | absoluteDifference | power | nthRoot
  | percentage | areaOfRectangle | cubeOfDifference | mean => exact fun _ _ => nofun
  | maxOfThree | minOfThree | averageOfThree => exact fun _ _ _ => nofun
  | isPerfectSquare | reverseNumber => exact fun _ => scalar_checked nofun _
  | isMultiple | lcm => exact fun _ _ => scalar_checked nofun _
  | modulus => exact fun _ _ => scalar_unless (scalar_checked nofun _)
  | divide => exact fun _ _ => scalar_unless nofun
  | reciprocal => exact fun _ => scalar_unless nofun

end Builtins

theorem Always.onTexts {property : Except Error Value → Prop}
    (errors : ∀ error, property (.error error)) {readings : List Reading}
    {function : Meaning readings} (always : Always property readings function)
    (arguments : List Text) : property (Meaning.onTexts readings function arguments) := by
  induction readings generalizing arguments with
  | nil => exact always
  | cons reading rest ih =>
    cases arguments with
    | nil => exact errors .missingParameters
    | cons argument arguments =>
      rw [Meaning.onTexts]
      cases reading.read argument with
      | error error => exact errors error
      | ok value => exact ih (always value) arguments

theorem lineFeed_not_mem_shown {result : Except Error Value} (scalar : Scalar result) {text : Text}
    (written : shown result = .ok text) : '\n' ∉ text := by
  match result with
  | .error error => cases written
  | .ok (.int n) =>
    rw [shown, Value.shown, Integer.written] at written
    split at written
    · obtain rfl := Except.ok.inj written
      exact Integer.lineFeed_not_mem_text n
    · cases written
  | .ok (.double x) =>
    obtain rfl := Except.ok.inj written
    exact x.lineFeed_not_mem_text
  | .ok (.bool b) =>
    obtain rfl := Except.ok.inj written
    cases b <;> exact Text.not_mem_toList (by decide)
  | .ok (.text value) => exact absurd rfl (scalar value)

theorem lineFeed_not_mem_evaluate {name text : Text} {arguments : List Text}
    (evaluated : evaluate name arguments = .ok text) : '\n' ∉ text := by
  rw [evaluate, evaluateAmong] at evaluated
  split at evaluated
  · cases evaluated
  · next builtin _ =>
    split at evaluated
    · cases evaluated
    · have scalar := (scalar_meaning builtin).onTexts scalar_error arguments
      exact lineFeed_not_mem_shown scalar evaluated

end FunctionCalculator.Evaluation
