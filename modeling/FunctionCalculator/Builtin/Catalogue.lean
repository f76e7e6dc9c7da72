import FunctionCalculator.Registry
/-!
The fifty builtin functions: the row of each in the registry, and its signature.
-/

set_option autoImplicit false

namespace FunctionCalculator

inductive Builtin
  | add
  | subtract
  | multiply
  | divide
  | modulus
  | power
  | squareRoot
  | cubeRoot
  | nthRoot
  | isEven
  | isOdd
  | halfValue
  | doubleValue
  | increment
  | decrement
  | findMax
  | findMin
  | isPrime
  | sin
  | cos
  | tan
  | cot
  | sec
  | cosec
  | gcd
  | lcm
  | absoluteValue
  | ceil
  | floor
  | round
  | absoluteDifference
  | isPositive
  | isPerfectSquare
  | cubeOfDifference
  | averageOfThree
  | isMultiple
  | sumOfDigits
  | sumOfSquares
  | reciprocal
  | mean
  | reverseNumber
  | degreesToRadians
  | radiansToDegrees
  | percentage
  | areaOfSquare
  | areaOfRectangle
  | areaOfCircle
  | maxOfThree
  | minOfThree
  | isPalindrome
  deriving DecidableEq, Repr

namespace Builtin

def all : List Builtin := [
  .add, .subtract, .multiply, .divide, .modulus, .power, .squareRoot, .cubeRoot, .nthRoot,
  .isEven, .isOdd, .halfValue, .doubleValue, .increment, .decrement, .findMax, .findMin, .isPrime,
  .sin, .cos, .tan, .cot, .sec, .cosec, .gcd, .lcm, .absoluteValue, .ceil, .floor, .round,
  .absoluteDifference, .isPositive, .isPerfectSquare, .cubeOfDifference, .averageOfThree,
  .isMultiple, .sumOfDigits, .sumOfSquares, .reciprocal, .mean, .reverseNumber, .degreesToRadians,
  .radiansToDegrees, .percentage, .areaOfSquare, .areaOfRectangle, .areaOfCircle, .maxOfThree,
  .minOfThree, .isPalindrome]

def row : Builtin → Registry.Row
  | .add => ⟨"add", "Add", ["a", "b"], [.int, .int], .int⟩
  | .subtract => ⟨"subtract", "Subtract", ["a", "b"], [.int, .int], .int⟩
  | .multiply => ⟨"multiply", "Multiply", ["a", "b"], [.int, .int], .int⟩
  | .divide => ⟨"divide", "Divide", ["a", "b"], [.double, .double], .double⟩
  | .modulus => ⟨"modulus", "Modulus", ["a", "b"], [.int, .int], .int⟩
  | .power => ⟨"power", "Power", ["base", "exponent"], [.double, .double], .double⟩
  | .squareRoot => ⟨"squareroot", "Squareroot", ["a"], [.double], .double⟩
  | .cubeRoot => ⟨"cuberoot", "Cuberoot", ["a"], [.double], .double⟩
  | .nthRoot => ⟨"nthroot", "Nth root", ["a", "n"], [.double, .double], .double⟩
  | .isEven => ⟨"iseven", "Is even", ["a"], [.int], .boolean⟩
  | .isOdd => ⟨"isodd", "Is odd", ["a"], [.int], .boolean⟩
  | .halfValue => ⟨"halfvalue", "Half value", ["a"], [.double], .double⟩
  | .doubleValue => ⟨"doublevalue", "Double value", ["a"], [.double], .double⟩
  | .increment => ⟨"increment", "Increment", ["a"], [.int], .int⟩
  | .decrement => ⟨"decrement", "Decrement", ["a"], [.int], .int⟩
  | .findMax => ⟨"findmax", "Find max", ["a", "b"], [.int, .int], .int⟩
  | .findMin => ⟨"findmin", "Find min", ["a", "b"], [.int, .int], .int⟩
  | .isPrime => ⟨"isprime", "Is prime", ["a"], [.int], .boolean⟩
  | .sin => ⟨"sin", "Sin", ["a"], [.double], .double⟩
  | .cos => ⟨"cos", "Cos", ["a"], [.double], .double⟩
  | .tan => ⟨"tan", "Tan", ["a"], [.double], .double⟩
  | .cot => ⟨"cot", "Cot", ["a"], [.double], .double⟩
  | .sec => ⟨"sec", "Sec", ["a"], [.double], .double⟩
  | .cosec => ⟨"cosec", "Cosec", ["a"], [.double], .double⟩
  | .gcd => ⟨"gcd", "Gcd", ["a", "b"], [.int, .int], .int⟩
  | .lcm => ⟨"lcm", "Lcm", ["a", "b"], [.int, .int], .int⟩
  | .absoluteValue => ⟨"absolutevalue", "Absolute value", ["a"], [.int], .int⟩
  | .ceil => ⟨"ceil", "Ceil", ["a"], [.double], .double⟩
  | .floor => ⟨"floor", "Floor", ["a"], [.double], .double⟩
  | .round => ⟨"round", "Round", ["a"], [.double], .int⟩
  | .absoluteDifference =>
    ⟨"absolutedifference", "Absolute difference", ["a", "b"], [.int, .int], .int⟩
  | .isPositive => ⟨"ispositive", "Is positive", ["a"], [.int], .boolean⟩
  | .isPerfectSquare => ⟨"isperfectsquare", "Is perfect square", ["a"], [.int], .boolean⟩
  | .cubeOfDifference => ⟨"cubeofdiff", "Cube of diff", ["a", "b"], [.int, .int], .int⟩
  | .averageOfThree => ⟨"averageof3", "Average of 3", ["a", "b", "c"], [.int, .int, .int], .double⟩
  | .isMultiple => ⟨"ismultiple", "Is multiple", ["a", "b"], [.int, .int], .boolean⟩
  | .sumOfDigits => ⟨"sumofdigits", "Sum of digits", ["a"], [.int], .int⟩
  | .sumOfSquares => ⟨"sumofsquares", "Sum of squares", ["a"], [.int], .int⟩
  | .reciprocal => ⟨"reciprocal", "Reciprocal", ["a"], [.double], .double⟩
  | .mean => ⟨"mean", "Mean", ["arr[]", "size"], [.intArray, .int], .double⟩
  | .reverseNumber => ⟨"reversenumber", "Reverse number", ["a"], [.int], .int⟩
  | .degreesToRadians => ⟨"degreestoradians", "Degrees to radians", ["deg"], [.double], .double⟩
  | .radiansToDegrees => ⟨"radianstodegrees", "Radians to degree", ["rad"], [.double], .double⟩
  | .percentage => ⟨"percentage", "Percentage", ["a", "b"], [.double, .double], .double⟩
  | .areaOfSquare => ⟨"areaofsquare", "Area of square", ["side"], [.double], .double⟩
  | .areaOfRectangle =>
    ⟨"areaofrectangle", "Area of Rectangle", ["l", "b"], [.double, .double], .double⟩
  | .areaOfCircle => ⟨"areaofcircle", "Area of circle", ["radius"], [.double], .double⟩
  | .maxOfThree => ⟨"maxofthree", "Max of three", ["a", "b", "c"], [.int, .int, .int], .int⟩
  | .minOfThree => ⟨"minofthree", "Min of three", ["a", "b", "c"], [.int, .int, .int], .int⟩
  | .isPalindrome => ⟨"ispalindrome", "Is palindrome", ["a"], [.int], .boolean⟩

def signature (builtin : Builtin) : Signature := builtin.row.signature

def name (builtin : Builtin) : Text := builtin.signature.name

def arity (builtin : Builtin) : Nat := builtin.signature.arity

def named? (name : Text) : Option Builtin := all.find? (·.name = name)

def find? (name : Text) : Option Builtin := named? name.lower

end Builtin

def Registry.standard : Registry := ⟨Builtin.all.map Builtin.signature⟩

end FunctionCalculator
