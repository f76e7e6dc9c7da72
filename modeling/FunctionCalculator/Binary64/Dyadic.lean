import FunctionCalculator.Binary64.Basic
import FunctionCalculator.Integer.Arithmetic
/-!
Magnitudes of doubles as odd numbers times powers of two.
-/

set_option autoImplicit false

namespace FunctionCalculator.Binary64

/-- An odd natural number times a power of two. -/
structure Dyadic where
  odd : Nat
  exponent : Int
  deriving DecidableEq, Repr

namespace Dyadic

-- A positive number of smallest magnitudes. Its lowest binary digit decides the power of two.
def ofUnits (units : Nat) : Dyadic :=
  let zeros := (units - (units &&& (units - 1))).log2
  ⟨units >>> zeros, (zeros : Int) - unitBits⟩

def two (exponent : Int) : Dyadic := ⟨1, exponent⟩

def value (x : Dyadic) : Rat :=
  if 0 ≤ x.exponent then ((x.odd <<< x.exponent.toNat : Nat) : Rat)
  else mkRat x.odd (1 <<< (-x.exponent).toNat)

def log2 (x : Dyadic) : Int := x.odd.log2 + x.exponent

def sqrt? (x : Dyadic) : Option Dyadic :=
  let root := Integer.floorRoot 2 x.odd
  if root * root = x.odd ∧ x.exponent.emod 2 = 0 then some ⟨root, x.exponent.fdiv 2⟩ else none

def pow (x : Dyadic) (count : Nat) : Dyadic := ⟨Nat.pow x.odd count, x.exponent * count⟩

end Dyadic
end FunctionCalculator.Binary64
