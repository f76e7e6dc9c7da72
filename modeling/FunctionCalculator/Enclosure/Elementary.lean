import FunctionCalculator.Enclosure.Basic
/-!
Enclosures of pi, logarithms, exponentials, sines and cosines by their power series. Arguments are
first reduced so that each term is at most half of the one before; as many terms as there are
binary places are added, and what is left of the series is less than the last place.
-/

set_option autoImplicit false

namespace FunctionCalculator.Enclosure

variable {p : Nat}

-- The sum of `power / weight 0 + power' / weight 1 + …`, each power got from the one before.
def sumSeries (next : Nat → Enclosure p → Enclosure p) (weight : Nat → Nat) :
    Nat → Nat → Enclosure p → Enclosure p → Enclosure p
  | 0, _, _, sum => sum.widen 1
  | terms + 1, i, power, sum =>
    sumSeries next weight terms (i + 1) (next i power) (sum.add (power.shrink (weight i)))

def zero : Enclosure p := ⟨0, 0⟩

def one : Enclosure p := ofInt 1

def arctanInverse (n : Nat) : Enclosure p :=
  sumSeries (fun _ power => (power.shrink (n * n)).neg) (2 * · + 1) p 0 (one.shrink n) zero

-- Four times the difference of four arc tangents of `1/5` and one of `1/239`.
def pi : Enclosure p :=
  scale 4 ((scale 4 (arctanInverse 5)).sub (arctanInverse 239))

def artanh (z : Enclosure p) : Enclosure p :=
  let square := z.mul z
  sumSeries (fun _ power => power.mul square) (2 * · + 1) p 0 z zero

def ln2 : Enclosure p := scale 2 (artanh (one.shrink 3))

def lnFraction (x : Rat) : Enclosure p := scale 2 (artanh (ofRat ((x - 1) / (x + 1))))

def expSmall (z : Enclosure p) : Enclosure p :=
  sumSeries (fun i power => (power.mul z).shrink (i + 1)) (fun _ => 1) (p + 1) 0 one zero

def sinSmall (z : Enclosure p) : Enclosure p :=
  let square := z.mul z
  sumSeries (fun i power => ((power.mul square).shrink ((2 * i + 2) * (2 * i + 3))).neg)
    (fun _ => 1) (p + 1) 0 z zero

def cosSmall (z : Enclosure p) : Enclosure p :=
  let square := z.mul z
  sumSeries (fun i power => ((power.mul square).shrink ((2 * i + 1) * (2 * i + 2))).neg)
    (fun _ => 1) (p + 1) 0 one zero

-- The sine and the cosine of `x`, which is brought near zero by quarter turns.
def sinCos (x : Rat) : Enclosure p × Enclosure p :=
  let turn : Enclosure p := pi
  let doubled : Enclosure p := ofRat (2 * x)
  let quarters := (2 * doubled.low + turn.low).fdiv (2 * turn.low)
  let rest := (doubled.sub (scale quarters turn)).shrink 2
  let sine := sinSmall rest
  let cosine := cosSmall rest
  match quarters.emod 4 with
  | 0 => (sine, cosine)
  | 1 => (cosine, sine.neg)
  | 2 => (sine.neg, cosine.neg)
  | _ => (cosine.neg, sine)

end FunctionCalculator.Enclosure
