/-!
Double-precision numbers. A finite number is a sign and the place of its magnitude in the
increasing list of all finite magnitudes, so neighbouring numbers have neighbouring ranks.
Each operation on finite numbers computes the exact rational result and rounds it once.
-/

set_option autoImplicit false

namespace FunctionCalculator

abbrev Binary64.finiteRanks : Nat := 0x7FF0000000000000

inductive Binary64
  | nan
  | infinity (negative : Bool)
  | finite (negative : Bool) (rank : Fin Binary64.finiteRanks)
  deriving DecidableEq, Repr

namespace Binary64

def binade : Nat := 0x10000000000000

/-- Magnitudes are whole multiples of the smallest one, `2` to the power `-1074`. -/
def unitBits : Nat := 1074

def unitsOfRank (rank : Nat) : Nat :=
  if rank < binade then rank else (binade + rank % binade) <<< (rank / binade - 1)

def roundHalfEven (n d : Nat) : Nat :=
  let quotient := n / d
  let twice := 2 * (n % d)
  if twice < d then quotient
  else if d < twice then quotient + 1
  else quotient + quotient % 2

/-- The rank whose magnitude is nearest to `n / d` smallest magnitudes. A significand that rounds
up to the next power of two carries into the rank of that power. -/
def nearestRank (n d : Nat) : Nat :=
  let shift := (n / d).log2 - 52
  roundHalfEven n (d <<< shift) + shift * binade

-- The number of the given sign nearest to the magnitude of `q`; infinite when `q` is nearer to
-- the next power of two than to the largest finite magnitude.
def ofMagnitude (negative : Bool) (q : Rat) : Binary64 :=
  let rank := nearestRank (q.num.natAbs <<< unitBits) q.den
  if h : rank < finiteRanks then .finite negative ⟨rank, h⟩ else .infinity negative

def ofRat (zeroNegative : Bool) (q : Rat) : Binary64 :=
  ofMagnitude (if q = 0 then zeroNegative else q < 0) q

def zero (negative : Bool) : Binary64 := .finite negative ⟨0, by decide⟩

def one : Binary64 := ofRat false 1

def exact (negative : Bool) (rank : Nat) : Rat :=
  let magnitude := mkRat (unitsOfRank rank) (1 <<< unitBits)
  if negative then -magnitude else magnitude

def value? : Binary64 → Option Rat
  | .finite negative rank => some (exact negative rank)
  | _ => none

def isZero : Binary64 → Bool
  | .finite _ rank => rank.val = 0
  | _ => false

def isFinite : Binary64 → Bool
  | .finite .. => true
  | _ => false

def isNegative : Binary64 → Bool
  | .nan => false
  | .infinity negative => negative
  | .finite negative _ => negative

end Binary64
end FunctionCalculator
