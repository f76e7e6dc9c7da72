import FunctionCalculator.Binary64.Arithmetic
import FunctionCalculator.Integer.Arithmetic
/-!
Square and cube roots of doubles, correctly rounded, and the perfect squares that are recognised
through them. A root is never smaller than the square root of the smallest magnitude, so 64 binary
digits below it tell every rounding boundary from the root; the final odd bit records that the root
is not a whole number of the last of them.
-/

set_option autoImplicit false

namespace FunctionCalculator

namespace Binary64

def rootEnclosure (degree n bits : Nat) : Rat :=
  let scaled := n <<< (degree * 64)
  let root := Integer.floorRoot degree scaled
  let sticky := if Nat.pow root degree = scaled then 0 else 1
  mkRat (2 * root + sticky : Nat) (1 <<< (bits + 65))

-- No number for a negative argument; both zeros stay.
def sqrt : Binary64 → Binary64
  | .nan => .nan
  | .infinity negative => if negative then .nan else .infinity false
  | .finite negative rank =>
    if rank.val = 0 then .finite negative rank
    else if negative then .nan
    else ofRat false (rootEnclosure 2 (unitsOfRank rank) 537)

def cbrt : Binary64 → Binary64
  | .nan => .nan
  | .infinity negative => .infinity negative
  | .finite negative rank =>
    if rank.val = 0 then .finite negative rank
    else ofMagnitude negative (rootEnclosure 3 (unitsOfRank rank) 358)

end Binary64

-- Whether the whole part of the double root gives the integer back when squared. Large integers
-- lose their last digits on the way, and the largest ones have no double at all.
def Integer.isPerfectSquare (n : Int) : Except Fault Bool :=
  if n < 0 then .ok false
  else
    match Binary64.ofInt? n with
    | none => .error .tooLargeForDouble
    | some x =>
      let root := x.sqrt.floor?.getD 0
      .ok (root * root = n)

end FunctionCalculator
