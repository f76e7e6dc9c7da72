import FunctionCalculator.Binary64.Arithmetic
import FunctionCalculator.Integer.Decimal
/-!
Doubles and decimal fractions: reading one rounds once, and the digits written are the fewest that
read back as the same double.
-/

set_option autoImplicit false

namespace FunctionCalculator.Binary64

def powerOfTen (exponent : Int) : Rat :=
  if 0 ≤ exponent then ((Nat.pow 10 exponent.toNat : Nat) : Rat)
  else mkRat 1 (Nat.pow 10 (-exponent).toNat)

-- The double nearest to `coefficient * 10 ^ exponent`. Ten lies between eight and sixteen, so an
-- exponent far beyond the length of the coefficient is answered without its power of ten.
def ofDecimal (negative : Bool) (coefficient : Nat) (exponent : Int) : Binary64 :=
  if coefficient = 0 then zero negative
  else
    let size := (coefficient.log2 : Int) + 3 * exponent
    if 0 ≤ exponent ∧ 1100 < size then .infinity negative
    else if exponent < 0 ∧ size < -1200 then zero negative
    else ofMagnitude negative (coefficient * powerOfTen exponent)

structure Decimal where
  coefficient : Nat
  exponent : Int
  deriving DecidableEq, Repr

def neighbours (q : Rat) (exponent : Int) : List Decimal :=
  let scaled := q * powerOfTen (-exponent)
  let low := scaled.floor.toNat
  let rest := scaled - low
  let below : Decimal := ⟨low, exponent⟩
  let above : Decimal := ⟨low + 1, exponent⟩
  if rest = 0 then [below]
  else if rest < 1 / 2 ∨ (rest = 1 / 2 ∧ low % 2 = 0) then [below, above]
  else [above, below]

-- The place of the leading digit of a positive fraction of at most 400 places.
def leadingPlace (q : Rat) : Int :=
  ((Integer.digits (q * powerOfTen 400).floor.toNat).length : Int) - 401

-- The fewest significant digits, at most seventeen, that read back as the magnitude of the given
-- rank.
def shortestDecimal (rank : Nat) : Decimal :=
  let q := exact false rank
  let place := leadingPlace q
  let candidates := (List.range 17).flatMap fun (n : Nat) => neighbours q (place - (n : Int))
  let reads (d : Decimal) : Bool :=
    ofMagnitude false (d.coefficient * powerOfTen d.exponent) = ofMagnitude false q
  (candidates.find? reads).getD ⟨0, 0⟩

end FunctionCalculator.Binary64
