import FunctionCalculator.Expression.Parser
/-!
The tree shown for an expression. Fifty texts are shown by a table; every other text is parsed.
-/

set_option autoImplicit false

namespace FunctionCalculator.Expression

structure Pattern where
  text : Text
  root : Text
  left : Text
  right : Option Text
  deriving DecidableEq, Repr

def patterns : List Pattern := [
  ⟨"a + b", "  add", "a", some "b"⟩,
  ⟨"a - b", "  subtract", "a", some "b"⟩,
  ⟨"a * b", "  multiply", "a", some "b"⟩,
  ⟨"a / b", "  divide", "a", some "b"⟩,
  ⟨"a % b", "Modulus", "a", some "b"⟩,
  ⟨"a ^ b", "Power", "a", some "b"⟩,
  ⟨"sqrt(a)", "Squareroot", "a", none⟩,
  ⟨"cbrt(a)", "Cuberoot", "a", none⟩,
  ⟨"nthRoot(a, b)", "Nth root", "a", some "b"⟩,
  ⟨"isEven(a)", "Is even", "a", none⟩,
  ⟨"isOdd(a)", "Is odd", "a", none⟩,
  ⟨"half(a)", "Half value", "a", none⟩,
  ⟨"double(a)", "Double value", "a", none⟩,
  ⟨"increment(a)", "Increment", "a", none⟩,
  ⟨"decrement(a)", "Decrement", "a", none⟩,
  ⟨"max(a, b)", "Find max", "a", some "b"⟩,
  ⟨"min(a, b)", "Find min", "a", some "b"⟩,
  ⟨"isPrime(a)", "Is prime", "a", none⟩,
  ⟨"sin(a)", "Sin", "a", none⟩,
  ⟨"cos(a)", "Cos", "a", none⟩,
  ⟨"tan(a)", "Tan", "a", none⟩,
  ⟨"cot(a)", "Cot", "a", none⟩,
  ⟨"sec(a)", "Sec", "a", none⟩,
  ⟨"cosec(a)", "Cosec", "a", none⟩,
  ⟨"gcd(a, b)", "Gcd", "a", some "b"⟩,
  ⟨"lcm(a, b)", "Lcm", "a", some "b"⟩,
  ⟨"abs(a)", "Absolute value", "a", none⟩,
  ⟨"ceil(a)", "Ceil", "a", none⟩,
  ⟨"floor(a)", "Floor", "a", none⟩,
  ⟨"round(a)", "Round", "a", none⟩,
  ⟨"absDiff(a, b)", "Absolute difference", "a", some "b"⟩,
  ⟨"isPositive(a)", "Is positive", "a", none⟩,
  ⟨"isPerfectSquare(a)", "Is perfect square", "a", none⟩,
  ⟨"cubeDiff(a, b)", "Cube of diff", "a", some "b"⟩,
  ⟨"avg(a, b, c)", "Average of 3", "a", some "b"⟩,
  ⟨"isMultiple(a, b)", "Is multiple", "a", some "b"⟩,
  ⟨"sumDigits(a)", "Sum of digits", "a", none⟩,
  ⟨"sumSquares(a)", "Sum of squares", "a", none⟩,
  ⟨"reciprocal(a)", "Reciprocal", "a", none⟩,
  ⟨"mean(a, b, c)", "  Mean", "a", some "b"⟩,
  ⟨"reverseNumber(a)", "Reverse number", "a", none⟩,
  ⟨"degToRad(a)", "Degrees to radians", "a", none⟩,
  ⟨"radToDeg(a)", "Radians to degree", "a", none⟩,
  ⟨"percentage(a, b)", "Percentage", "a", some "b"⟩,
  ⟨"areaSquare(a)", "Area of square", "a", none⟩,
  ⟨"areaRectangle(a, b)", "Area of rectangle", "a", some "b"⟩,
  ⟨"areaCircle(a)", "Area of circle", "a", none⟩,
  ⟨"maxOfThree(a, b, c)", "Max of three", "a", some "b"⟩,
  ⟨"minOfThree(a, b, c)", "Min of three", "a", some "b"⟩,
  ⟨"isPalindrome(a)", "Is palindrome", "a", none⟩]

def Pattern.shown (pattern : Pattern) : Text :=
  match pattern.right with
  | none => pattern.root ++ "\n  " ++ pattern.left ++ ['\n']
  | some right => pattern.root ++ "\n  / \\ \n " ++ pattern.left ++ "   " ++ right ++ ['\n']

def pattern? (text : Text) : Option Text :=
  (patterns.find? (·.text = text)).map Pattern.shown

def displayParsed (text : Text) : Except Error Text :=
  if text.all inOperand then .error .noOperator
  else
    match parse text with
    | .ok tree => (render (tree.map Operator.label)).mapError .fault
    | .error error => .error error

def display (text : Text) : Except Error Text :=
  match pattern? text with
  | some shown => .ok shown
  | none => displayParsed text

end FunctionCalculator.Expression
