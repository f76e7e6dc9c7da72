import FunctionCalculator.Text.Basic
import FunctionCalculator.Integer.Decimal
/-!
Right-hand sides of three-address code and their text.
-/

set_option autoImplicit false

namespace FunctionCalculator.Code

inductive Operator
  | plus
  | minus
  | times
  | over
  | modulo
  | equal
  | unequal
  | less
  | greater
  deriving DecidableEq, Repr

def Operator.symbol : Operator → Text
  | .plus => "+"
  | .minus => "-"
  | .times => "*"
  | .over => "/"
  | .modulo => "%"
  | .equal => "=="
  | .unequal => "!="
  | .less => "<"
  | .greater => ">"

inductive Primitive
  | abs
  | cbrt
  | ceil
  | cos
  | floor
  | gcd
  | isPrime
  | lcm
  | length
  | max
  | min
  | pow
  | reverse
  | round
  | sin
  | sqrt
  | sum
  | sumOfDigits
  | sumOfSquares
  | tan
  deriving DecidableEq, Repr

def Primitive.name : Primitive → Text
  | .abs => "abs"
  | .cbrt => "cbrt"
  | .ceil => "ceil"
  | .cos => "cos"
  | .floor => "floor"
  | .gcd => "gcd"
  | .isPrime => "is_prime"
  | .lcm => "lcm"
  | .length => "length"
  | .max => "max"
  | .min => "min"
  | .pow => "pow"
  | .reverse => "reverse"
  | .round => "round"
  | .sin => "sin"
  | .sqrt => "sqrt"
  | .sum => "sum"
  | .sumOfDigits => "sum_of_digits"
  | .sumOfSquares => "sum_of_squares"
  | .tan => "tan"

inductive Term (α : Type)
  | argument (value : α)
  | temporary (index : Nat)
  | number (value : Nat)
  -- Pi to four places.
  | pi
  | binary (operator : Operator) (left right : Term α)
  | group (inner : Term α)
  | apply (primitive : Primitive) (inner : Term α)
  | apply₂ (primitive : Primitive) (first second : Term α)
  | choose (condition yes no : Term α)
  deriving DecidableEq, Repr

namespace Term

def temporaryName (index : Nat) : Text := 't' :: Integer.naturalText index

def text : Term Text → Text
  | .argument value => value
  | .temporary index => temporaryName index
  | .number value => Integer.naturalText value
  | .pi => "3.1416"
  | .binary operator left right => left.text ++ [' '] ++ operator.symbol ++ [' '] ++ right.text
  | .group inner => '(' :: inner.text ++ [')']
  | .apply primitive inner => primitive.name ++ ['('] ++ inner.text ++ [')']
  | .apply₂ primitive first second =>
    primitive.name ++ ['('] ++ first.text ++ [',', ' '] ++ second.text ++ [')']
  | .choose condition yes no =>
    condition.text ++ [' ', '?', ' '] ++ yes.text ++ [' ', ':', ' '] ++ no.text

def replace {α β ε : Type} (f : α → Except ε β) : Term α → Except ε (Term β)
  | .argument value => return .argument (← f value)
  | .temporary index => .ok (.temporary index)
  | .number value => .ok (.number value)
  | .pi => .ok .pi
  | .binary operator left right => return .binary operator (← left.replace f) (← right.replace f)
  | .group inner => return .group (← inner.replace f)
  | .apply primitive inner => return .apply primitive (← inner.replace f)
  | .apply₂ primitive first second =>
    return .apply₂ primitive (← first.replace f) (← second.replace f)
  | .choose condition yes no =>
    return .choose (← condition.replace f) (← yes.replace f) (← no.replace f)

end Term
end FunctionCalculator.Code
