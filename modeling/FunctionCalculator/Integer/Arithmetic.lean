import FunctionCalculator.Error
/-!
Whole numbers: division toward zero with the divisors and multiples that rest on it, roots, and
primality.
-/

set_option autoImplicit false

namespace FunctionCalculator.Integer

def signed (negative : Bool) (magnitude : Nat) : Int := if negative then -magnitude else magnitude

section Division

def signedRemainder (a b : Int) : Int := signed (a < 0) (a.natAbs % b.natAbs)

def signedQuotient (a b : Int) : Int := signed (a < 0 ^^ b < 0) (a.natAbs / b.natAbs)

def remainder (a b : Int) : Except Fault Int :=
  if b = 0 then .error .zeroRemainder else .ok (signedRemainder a b)

def quotient (a b : Int) : Except Fault Int :=
  if b = 0 then .error .zeroQuotient else .ok (signedQuotient a b)

-- A common divisor by repeated remainders; its sign is that of the last divisor.
def gcd (a b : Int) : Int :=
  if b = 0 then a else gcd b (signedRemainder a b)
termination_by b.natAbs
decreasing_by
  have small := Nat.mod_lt a.natAbs (Int.natAbs_pos.2 ‹_›)
  simp only [signedRemainder, signed]
  split <;> omega

def lcm (a b : Int) : Except Fault Int := quotient (a * b) (gcd a b)

end Division

section Roots

-- One more binary digit of the root in each step.
def extendRoot (degree n : Nat) : Nat → Nat → Nat
  | 0, root => root
  | bits + 1, root =>
    let next := root + 1 <<< bits
    extendRoot degree n bits (if Nat.pow next degree ≤ n then next else root)

def floorRoot (degree n : Nat) : Nat :=
  extendRoot degree n (n.log2 / degree + 1) 0

end Roots

section Primes

def noDivisorFrom (n last i : Nat) : Bool :=
  if i ≤ last then
    if n % i = 0 then false else noDivisorFrom n last (i + 1)
  else true
termination_by last + 1 - i

def isPrime (n : Int) : Bool := 1 < n && noDivisorFrom n.toNat n.toNat.sqrt 2

end Primes

end FunctionCalculator.Integer
