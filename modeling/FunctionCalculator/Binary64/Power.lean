import FunctionCalculator.Binary64.Dyadic
import FunctionCalculator.Binary64.Enclosed
/-!
Powers of doubles, correctly rounded, with the two ways in which a power of finite numbers can
fail kept apart.
-/

set_option autoImplicit false

namespace FunctionCalculator.Binary64

inductive PowerFault
  | overflow
  | undefined
  deriving DecidableEq, Repr

-- A power to `n * 2 ^ twos`, rewritten while a root of the base can take a factor of two from the
-- denominator of the exponent.
def takeRoots : Nat → Dyadic → Int → Int → Dyadic × Int × Int
  | 0, base, n, twos => (base, n, twos)
  | steps + 1, base, n, twos =>
    if twos < 0 then
      match base.sqrt? with
      | some root => takeRoots steps root n (twos + 1)
      | none => (base, n, twos)
    else (base, n, twos)

-- The exact power, when it is a fraction of moderate size. Every power that a double or a
-- midpoint of two doubles equals is of that kind.
def exactPower? (base : Dyadic) (n twos : Int) : Option Rat :=
  let (base, n, twos) := takeRoots 64 base n twos
  if twos < 0 ∨ 64 < twos then none
  else
    let count := n.natAbs <<< twos.toNat
    if 4096 < (base.odd.log2 + 1) * count then none
    else
      let power := (base.pow count).value
      some (if n < 0 then 1 / power else power)

def enclosedPower (base : Dyadic) (y : Rat) (precision : Nat) : Rat × Rat :=
  let p := precision + spread y
  let whole := base.log2
  let fraction := base.value / (Dyadic.two whole).value
  let ln : Enclosure p := (Enclosure.lnFraction fraction).add (Enclosure.scale whole Enclosure.ln2)
  let t := ln.mul (Enclosure.ofRat y)
  let two : Enclosure p := Enclosure.ln2
  let twos := (2 * t.low + two.low).fdiv (2 * two.low)
  if 1100 < twos then ((Dyadic.two 1100).value, (Dyadic.two 1100).value)
  else if twos < -1200 then (0, 0)
  else (Enclosure.expSmall (t.sub (Enclosure.scale twos two))).scaledBounds twos

def powerOfPositive (base : Dyadic) (n twos : Int) : Binary64 :=
  let y := (Dyadic.mk n.natAbs twos).value * (if n < 0 then -1 else 1)
  -- The logarithm of the power to base two lies between these.
  let a := y * base.log2
  let b := y * (base.log2 + 1)
  if 1100 < a ∧ 1100 < b then .infinity false
  else if a < -1200 ∧ b < -1200 then zero false
  else
    match exactPower? base n twos with
    | some q => ofRat false q
    | none => nearest fun precision => some (enclosedPower base y precision)

def isWhole (x : Binary64) : Bool := (x.value?.map Rat.isInt).getD false

def isOdd (x : Binary64) : Bool :=
  match x.value? with
  | some q => q.isInt && q.num.emod 2 = 1
  | none => false

def finitePower (s : Bool) (base : Fin finiteRanks) (t : Bool) (exponent : Fin finiteRanks) :
    Except PowerFault Binary64 :=
  let y := finite t exponent
  if exponent.val = 0 ∨ finite s base = one then .ok one
  else if base.val = 0 then
    if t then .error .undefined else .ok (zero (s && y.isOdd))
  else if s && !y.isWhole then .error .undefined
  else
    let n := Dyadic.ofUnits (unitsOfRank exponent)
    let odd : Int := n.odd
    let magnitude :=
      powerOfPositive (Dyadic.ofUnits (unitsOfRank base)) (if t then -odd else odd) n.exponent
    match magnitude with
    | .infinity _ => .error .overflow
    | r => .ok (if s && y.isOdd then r.negate else r)

-- Powers with an argument that is not finite always have a value: one for a zero exponent or a
-- base of one, and otherwise the limit that the magnitudes give.
def power? : Binary64 → Binary64 → Except PowerFault Binary64
  | .finite s base, .finite t exponent => finitePower s base t exponent
  | .nan, y => .ok (if y.isZero then one else .nan)
  | x, .nan => .ok (if x = one then one else .nan)
  | .infinity s, y =>
    .ok (if y.isZero then one
      else if y.isNegative then zero (s && y.isOdd)
      else .infinity (s && y.isOdd))
  | .finite _ base, .infinity t =>
    let magnitude := Binary64.finite false base
    .ok (if magnitude = one then one
      else if decide (exact false base < 1) = t then .infinity false
      else zero false)

-- A power that is too large is infinite, and so is zero to a negative power; a negative base to a
-- power that is not whole gives no number.
def power (x y : Binary64) : Binary64 :=
  match power? x y with
  | .ok r => r
  | .error .overflow => .infinity false
  | .error .undefined => if x.isZero then .infinity false else .nan

end FunctionCalculator.Binary64
