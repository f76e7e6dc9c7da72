/-!
Enclosures: pairs of bounds between which a real number lies, both whole multiples of
`2 ^ -precision`. Every operation rounds the lower bound down and the upper bound up.
-/

set_option autoImplicit false

namespace FunctionCalculator

structure Enclosure (precision : Nat) where
  low : Int
  high : Int
  deriving DecidableEq, Repr

namespace Enclosure

variable {p : Nat}

def ceilDiv (n d : Int) : Int := -(Int.fdiv (-n) d)

def ofRat (q : Rat) : Enclosure p :=
  let scaled := q.num * ((1 <<< p : Nat) : Int)
  ⟨scaled.fdiv q.den, ceilDiv scaled q.den⟩

def ofInt (n : Int) : Enclosure p := ofRat n

def neg (x : Enclosure p) : Enclosure p := ⟨-x.high, -x.low⟩

def add (x y : Enclosure p) : Enclosure p := ⟨x.low + y.low, x.high + y.high⟩

def sub (x y : Enclosure p) : Enclosure p := x.add y.neg

-- A product of bounds is extreme at a pair of ends.
def mul (x y : Enclosure p) : Enclosure p :=
  let a := x.low * y.low
  let b := x.low * y.high
  let c := x.high * y.low
  let d := x.high * y.high
  let unit : Int := (1 <<< p : Nat)
  ⟨(min (min a b) (min c d)).fdiv unit, ceilDiv (max (max a b) (max c d)) unit⟩

def scale (n : Int) (x : Enclosure p) : Enclosure p :=
  if 0 ≤ n then ⟨n * x.low, n * x.high⟩ else ⟨n * x.high, n * x.low⟩

def shrink (x : Enclosure p) (n : Nat) : Enclosure p := ⟨x.low.fdiv n, ceilDiv x.high n⟩

def widen (x : Enclosure p) (places : Nat) : Enclosure p := ⟨x.low - places, x.high + places⟩

def bounds (x : Enclosure p) : Rat × Rat := (mkRat x.low (1 <<< p), mkRat x.high (1 <<< p))

def lesser (a b : Rat) : Rat := if a ≤ b then a else b

def greater (a b : Rat) : Rat := if a ≤ b then b else a

def quotient? (x y : Enclosure p) : Option (Rat × Rat) :=
  if y.low ≤ 0 ∧ 0 ≤ y.high then none
  else
    let q (a b : Int) : Rat := (a : Rat) / (b : Rat)
    let a := q x.low y.low
    let b := q x.low y.high
    let c := q x.high y.low
    let d := q x.high y.high
    some (lesser (lesser a b) (lesser c d), greater (greater a b) (greater c d))

def scaledBounds (x : Enclosure p) (exponent : Int) : Rat × Rat :=
  let factor : Rat :=
    if 0 ≤ exponent then ((1 <<< exponent.toNat : Nat) : Rat)
    else mkRat 1 (1 <<< (-exponent).toNat)
  (x.bounds.1 * factor, x.bounds.2 * factor)

end Enclosure
end FunctionCalculator
