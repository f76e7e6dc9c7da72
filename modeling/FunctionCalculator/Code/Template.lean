import FunctionCalculator.Builtin.Catalogue
import FunctionCalculator.Code.Term
/-!
The code of each builtin: the right-hand sides of its temporaries, in order, over the numbers of
its arguments.
-/

set_option autoImplicit false

namespace FunctionCalculator.Code

def temp (index : Nat) : Term Nat := .temporary index

def arg (index : Nat) : Term Nat := .argument index

def template : Builtin → List (Term Nat)
  | .add => [arg 0, arg 1, .binary .plus (temp 1) (temp 2)]
  | .subtract => [arg 0, arg 1, .binary .minus (temp 1) (temp 2)]
  | .multiply => [arg 0, arg 1, .binary .times (temp 1) (temp 2)]
  | .divide => [arg 0, arg 1, .binary .over (temp 1) (temp 2)]
  | .modulus => [arg 0, arg 1, .binary .modulo (temp 1) (temp 2)]
  | .power => [arg 0, arg 1, .apply₂ .pow (temp 1) (temp 2)]
  | .squareRoot => [arg 0, .apply .sqrt (temp 1)]
  | .cubeRoot => [arg 0, .apply .cbrt (temp 1)]
  | .nthRoot => [arg 0, arg 1, .apply₂ .pow (temp 1) (.binary .over (.number 1) (temp 2))]
  | .isEven => [arg 0, .binary .modulo (temp 1) (.number 2), .binary .equal (temp 2) (.number 0)]
  | .isOdd => [arg 0, .binary .modulo (temp 1) (.number 2), .binary .unequal (temp 2) (.number 0)]
  | .halfValue => [arg 0, .binary .over (temp 1) (.number 2)]
  | .doubleValue => [arg 0, .binary .times (temp 1) (.number 2)]
  | .increment => [arg 0, .binary .plus (temp 1) (.number 1)]
  | .decrement => [arg 0, .binary .minus (temp 1) (.number 1)]
  | .findMax =>
    [arg 0, arg 1, .choose (.group (.binary .greater (temp 1) (temp 2))) (temp 1) (temp 2)]
  | .findMin =>
    [arg 0, arg 1, .choose (.group (.binary .less (temp 1) (temp 2))) (temp 1) (temp 2)]
  | .isPrime => [arg 0, .apply .isPrime (temp 1)]
  | .sin => [arg 0, .apply .sin (temp 1)]
  | .cos => [arg 0, .apply .cos (temp 1)]
  | .tan => [arg 0, .apply .tan (temp 1)]
  | .cot => [arg 0, .apply .tan (temp 1), .binary .over (.number 1) (temp 2)]
  | .sec => [arg 0, .apply .cos (temp 1), .binary .over (.number 1) (temp 2)]
  | .cosec => [arg 0, .apply .sin (temp 1), .binary .over (.number 1) (temp 2)]
  | .gcd => [arg 0, arg 1, .apply₂ .gcd (temp 1) (temp 2)]
  | .lcm => [arg 0, arg 1, .apply₂ .lcm (temp 1) (temp 2)]
  | .absoluteValue => [arg 0, .apply .abs (temp 1)]
  | .ceil => [arg 0, .apply .ceil (temp 1)]
  | .floor => [arg 0, .apply .floor (temp 1)]
  | .round => [arg 0, .apply .round (temp 1)]
  | .absoluteDifference => [arg 0, arg 1, .apply .abs (.binary .minus (temp 1) (temp 2))]
  | .isPositive => [arg 0, .binary .greater (temp 1) (.number 0)]
  | .isPerfectSquare =>
    [arg 0, .apply .sqrt (temp 1), .binary .times (temp 2) (temp 2),
      .binary .equal (temp 3) (temp 1)]
  | .cubeOfDifference =>
    [arg 0, arg 1, .binary .minus (temp 1) (temp 2),
      .binary .times (.binary .times (temp 3) (temp 3)) (temp 3)]
  | .averageOfThree =>
    [arg 0, arg 1, arg 2, .binary .plus (.binary .plus (temp 1) (temp 2)) (temp 3),
      .binary .over (temp 4) (.number 3)]
  | .isMultiple => [arg 0, arg 1, .binary .equal (.binary .modulo (temp 1) (temp 2)) (.number 0)]
  | .sumOfDigits => [arg 0, .apply .sumOfDigits (temp 1)]
  | .sumOfSquares => [arg 0, .apply .sumOfSquares (temp 1)]
  | .reciprocal => [arg 0, .binary .over (.number 1) (temp 1)]
  | .mean => [.apply .sum (arg 0), .apply .length (arg 0), .binary .over (temp 1) (temp 2)]
  | .reverseNumber => [arg 0, .apply .reverse (temp 1)]
  | .degreesToRadians =>
    [arg 0, .binary .times (temp 1) (.group (.binary .over .pi (.number 180)))]
  | .radiansToDegrees =>
    [arg 0, .binary .times (temp 1) (.group (.binary .over (.number 180) .pi))]
  | .percentage =>
    [arg 0, arg 1, .binary .times (.group (.binary .over (temp 1) (temp 2))) (.number 100)]
  | .areaOfSquare => [arg 0, .binary .times (temp 1) (temp 1)]
  | .areaOfRectangle => [arg 0, arg 1, .binary .times (temp 1) (temp 2)]
  | .areaOfCircle => [arg 0, .binary .times (.binary .times .pi (temp 1)) (temp 1)]
  | .maxOfThree =>
    [arg 0, arg 1, arg 2, .apply₂ .max (temp 1) (temp 2), .apply₂ .max (temp 4) (temp 3)]
  | .minOfThree =>
    [arg 0, arg 1, arg 2, .apply₂ .min (temp 1) (temp 2), .apply₂ .min (temp 4) (temp 3)]
  | .isPalindrome => [arg 0, .apply .reverse (temp 1), .binary .equal (temp 1) (temp 2)]

def aliases : List (Text × Builtin) := [
  ("max", .findMax), ("min", .findMin), ("half", .halfValue), ("double", .doubleValue),
  ("abs", .absoluteValue), ("absdiff", .absoluteDifference), ("average3", .averageOfThree),
  ("sumdigits", .sumOfDigits), ("sumsquares", .sumOfSquares), ("reverse", .reverseNumber),
  ("deg2rad", .degreesToRadians), ("rad2deg", .radiansToDegrees), ("area_square", .areaOfSquare),
  ("area_rectangle", .areaOfRectangle), ("area_circle", .areaOfCircle), ("max3", .maxOfThree),
  ("min3", .minOfThree)]

def resolve (name : Text) : Text :=
  match aliases.lookup name.lower with
  | some builtin => builtin.name
  | none => name.lower

end FunctionCalculator.Code
