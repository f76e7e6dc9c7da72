import FunctionCalculator.Builtin.Catalogue
import FunctionCalculator.Value
import FunctionCalculator.Binary64.Power
import FunctionCalculator.Binary64.Root
import FunctionCalculator.Binary64.Enclosed
import FunctionCalculator.Integer.Arithmetic
/-!
What each builtin computes from its arguments.
-/

set_option autoImplicit false

namespace FunctionCalculator

abbrev Meaning : List Reading → Type
  | [] => Except Error Value
  | reading :: rest => reading.Carrier → Meaning rest

namespace Builtin

def ownReadings? : Builtin → Option (List Reading)
  | .cubeOfDifference => some [.double, .double]
  | .averageOfThree => some [.double, .double, .double]
  | .mean => some [.double, .double]
  | .isPalindrome => some [.text]
  | _ => none

def readings (builtin : Builtin) : List Reading :=
  builtin.ownReadings?.getD (builtin.signature.kinds.filterMap Reading.ofKind?)

def roundingBounds : Int × Int := (-0x8000000000000000, 0x7fffffffffffffff)

-- The greatest integer at or below a double plus a half, the sum being rounded to a double first.
-- An infinite number goes to a bound, and no number to zero.
def rounded (x : Binary64) : Int :=
  match x with
  | .nan => 0
  | .infinity negative => if negative then roundingBounds.1 else roundingBounds.2
  | .finite .. => (x + Binary64.half).floor?.getD 0

def int (n : Int) : Except Error Value := .ok (.int n)

def double (x : Binary64) : Except Error Value := .ok (.double x)

def bool (b : Bool) : Except Error Value := .ok (.bool b)

def checked {α : Type} (wrap : α → Value) (result : Except Fault α) : Except Error Value :=
  match result with
  | .ok value => .ok (wrap value)
  | .error cause => .error (.fault cause)

open Binary64 in
def meaning : (builtin : Builtin) → Meaning builtin.readings
  | .add => fun (a b : Int) => int (a + b)
  | .subtract => fun (a b : Int) => int (a - b)
  | .multiply => fun (a b : Int) => int (a * b)
  | .divide => fun (a b : Binary64) =>
    if b.isZero then .error .divisionByZero else double (a / b)
  | .modulus => fun (a b : Int) =>
    if b = 0 then .error .moduloByZero else checked .int (Integer.remainder a b)
  | .power => fun (a b : Binary64) => double (a.power b)
  | .squareRoot => fun (a : Binary64) => double a.sqrt
  | .cubeRoot => fun (a : Binary64) => double a.cbrt
  | .nthRoot => fun (a n : Binary64) => double (a.power (1 / n))
  | .isEven => fun (a : Int) => checked .bool ((Integer.remainder a 2).map (· = 0))
  | .isOdd => fun (a : Int) => checked .bool ((Integer.remainder a 2).map (· ≠ 0))
  | .halfValue => fun (a : Binary64) => double (a / 2)
  | .doubleValue => fun (a : Binary64) => double (a * 2)
  | .increment => fun (a : Int) => int (a + 1)
  | .decrement => fun (a : Int) => int (a - 1)
  | .findMax => fun (a b : Int) => int (max a b)
  | .findMin => fun (a b : Int) => int (min a b)
  | .isPrime => fun (a : Int) => bool (Integer.isPrime a)
  | .sin => fun (a : Binary64) => double (Ratio.sine.ofDegrees a)
  | .cos => fun (a : Binary64) => double (Ratio.cosine.ofDegrees a)
  | .tan => fun (a : Binary64) => double (Ratio.tangent.ofDegrees a)
  | .cot => fun (a : Binary64) => double (1 / Ratio.tangent.ofDegrees a)
  | .sec => fun (a : Binary64) => double (1 / Ratio.cosine.ofDegrees a)
  | .cosec => fun (a : Binary64) => double (1 / Ratio.sine.ofDegrees a)
  | .gcd => fun (a b : Int) => int (Integer.gcd a b)
  | .lcm => fun (a b : Int) => checked .int (Integer.lcm a b)
  | .absoluteValue => fun (a : Int) => int a.natAbs
  | .ceil => fun (a : Binary64) => double a.ceil
  | .floor => fun (a : Binary64) => double a.floor
  | .round => fun (a : Binary64) => int (rounded a)
  | .absoluteDifference => fun (a b : Int) => int (a - b).natAbs
  | .isPositive => fun (a : Int) => bool (0 < a)
  | .isPerfectSquare => fun (a : Int) => checked .bool (Integer.isPerfectSquare a)
  | .cubeOfDifference => fun (a b : Binary64) => double ((a - b).power 3)
  | .averageOfThree => fun (a b c : Binary64) => double ((a + b + c) / 3)
  | .isMultiple => fun (a b : Int) => checked .bool ((Integer.remainder a b).map (· = 0))
  | .sumOfDigits => fun (a : Int) => int (Integer.digitSum a)
  | .sumOfSquares => fun (a : Int) => int (Integer.digitSquareSum a)
  | .reciprocal => fun (a : Binary64) =>
    if a.isZero then .error .divisionByZero else double (1 / a)
  | .mean => fun (a b : Binary64) => double ((a + b) / 2)
  | .reverseNumber => fun (a : Int) => checked .int (Integer.reverse a)
  | .degreesToRadians => fun (a : Binary64) => double (radians a)
  | .radiansToDegrees => fun (a : Binary64) => double (degrees a)
  | .percentage => fun (a b : Binary64) => double (a / b * 100)
  | .areaOfSquare => fun (side : Binary64) => double (side.power 2)
  | .areaOfRectangle => fun (l b : Binary64) => double (l * b)
  | .areaOfCircle => fun (radius : Binary64) => double (pi * radius.power 2)
  | .maxOfThree => fun (a b c : Int) => int (max a (max b c))
  | .minOfThree => fun (a b c : Int) => int (min a (min b c))
  | .isPalindrome => fun (a : Text) => bool (a = a.reverse)

end Builtin
end FunctionCalculator
