import FunctionCalculator.Binary64.Arithmetic
import FunctionCalculator.Enclosure.Elementary
/-!
Doubles nearest to enclosed real numbers: pi, and the sine, cosine and tangent of doubles. An
enclosure is narrowed until both of its bounds round to the same double.
-/

set_option autoImplicit false

namespace FunctionCalculator.Binary64

-- Binary places to try in turn. The numbers enclosed are never themselves halfway between
-- doubles, so one of them decides.
def precisions : List Nat := [128, 256, 512, 1024]

def agreed? (bounds : Rat × Rat) : Option Binary64 :=
  let x := ofRat false bounds.1
  if x = ofRat false bounds.2 then some x else none

def nearest (bounds? : Nat → Option (Rat × Rat)) : Binary64 :=
  (precisions.findSome? fun precision => (bounds? precision).bind agreed?).getD .nan

def spread (x : Rat) : Nat := x.num.natAbs.log2 + x.den.log2

def pi : Binary64 := nearest fun precision => some (Enclosure.pi : Enclosure precision).bounds

section Angles

inductive Ratio
  | sine
  | cosine
  | tangent
  deriving DecidableEq, Repr

def Ratio.bounds? (ratio : Ratio) (x : Rat) (precision : Nat) : Option (Rat × Rat) :=
  let pair : Enclosure (precision + spread x) × Enclosure (precision + spread x) :=
    Enclosure.sinCos x
  match ratio with
  | .sine => some pair.1.bounds
  | .cosine => some pair.2.bounds
  | .tangent => pair.1.quotient? pair.2

def Ratio.ofRadians (ratio : Ratio) : Binary64 → Binary64
  | .finite negative rank =>
    if rank.val = 0 then
      match ratio with
      | .cosine => one
      | _ => .finite negative rank
    else nearest (ratio.bounds? (exact negative rank))
  | _ => .nan

def radians (degrees : Binary64) : Binary64 := degrees * (pi / 180)

def degrees (radians : Binary64) : Binary64 := radians * (180 / pi)

def Ratio.ofDegrees (ratio : Ratio) (x : Binary64) : Binary64 :=
  if x.isFinite then ratio.ofRadians (radians x) else .nan

end Angles

end FunctionCalculator.Binary64
