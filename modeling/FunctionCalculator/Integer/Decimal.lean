import FunctionCalculator.Integer.Arithmetic
/-!
Integers as decimal text. Neither reading nor writing goes beyond 4300 digits.
-/

set_option autoImplicit false

namespace FunctionCalculator.Integer

-- The lowest digit first; zero has none.
def digits (n : Nat) : List Nat :=
  if n = 0 then [] else n % 10 :: digits (n / 10)
decreasing_by omega

def maxDigits : Nat := 4300

def naturalText (n : Nat) : Text :=
  if n = 0 then ['0'] else (digits n).reverse.map Nat.digitChar

def text (n : Int) : Text :=
  if n < 0 then '-' :: naturalText n.natAbs else naturalText n.natAbs

def written (n : Int) : Except Fault Text :=
  if (naturalText n.natAbs).length ≤ maxDigits then .ok (text n) else .error .tooManyDigits

def splitSign : Text → Bool × Text
  | '+' :: rest => (false, rest)
  | '-' :: rest => (true, rest)
  | text => (false, text)

-- An optional sign and at least one digit; leading zeros count toward the limit.
def read? (text : Text) : Option Int :=
  let (negative, rest) := splitSign text
  if rest ≠ [] ∧ rest.all Text.isDigit ∧ rest.length ≤ maxDigits then
    some (signed negative (Text.ofDigitValues (Text.digitValues rest)))
  else none

def reverse (n : Int) : Except Fault Int := do
  let shown ← written n.natAbs
  return signed (n < 0) (Text.ofDigitValues (Text.digitValues shown.reverse))

def digitSum (n : Int) : Int :=
  signed (n < 0) ((digits n.natAbs).foldl (· + ·) 0)

def digitSquareSum (n : Int) : Int :=
  ((digits n.natAbs).foldl (fun sum digit => sum + digit * digit) 0 : Nat)

end FunctionCalculator.Integer
