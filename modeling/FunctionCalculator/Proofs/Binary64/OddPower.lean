import FunctionCalculator.Proofs.Binary64.Negation
import FunctionCalculator.Proofs.Binary64.One
/-!
Odd powers of opposite numbers are opposite, as long as they are not too large for a double.
-/

set_option autoImplicit false

namespace FunctionCalculator.Binary64

section Finite

variable {t : Bool} {base exponent : Fin finiteRanks}

theorem not_zero_of_isOdd (odd : (finite t exponent).isOdd) : exponent.val ≠ 0 := by
  intro zero
  obtain rfl : exponent = ⟨0, by decide⟩ := Fin.ext zero
  revert odd
  cases t <;> decide +kernel

theorem isWhole_of_isOdd (odd : (finite t exponent).isOdd) : (finite t exponent).isWhole := by
  have whole : (exact t exponent).isInt && (exact t exponent).num.emod 2 = 1 := odd
  exact (Bool.and_eq_true_iff.1 whole).1

def magnitudePower (base : Fin finiteRanks) (t : Bool) (exponent : Fin finiteRanks) : Binary64 :=
  let n := Dyadic.ofUnits (unitsOfRank exponent)
  powerOfPositive (Dyadic.ofUnits (unitsOfRank base)) (if t then -(n.odd : Int) else n.odd)
    n.exponent

def signed (s : Bool) : Binary64 → Except PowerFault Binary64
  | .infinity _ => .error .overflow
  | r => .ok (if s then -r else r)

theorem signed_not (s : Bool) (r : Binary64) : signed (!s) r = (signed s r).map (-·) := by
  cases r with
  | infinity negative => rfl
  | nan => cases s <;> rfl
  | finite negative rank =>
    cases s with
    | false => rfl
    | true => exact congrArg Except.ok (negate_negate (finite negative rank)).symm

theorem magnitudePower_one (one_base : finite false base = one) :
    magnitudePower base t exponent = one := by
  rw [one_eq] at one_base
  obtain rfl : base = ⟨0x3FF0000000000000, by decide⟩ := by simpa using one_base
  rw [magnitudePower, ofUnits_one]
  exact powerOfPositive_one_of_rank exponent (by split <;> simp)

/-- A base of one is answered apart, but its power would be one in any case. -/
theorem finitePower_of_isOdd (odd : (finite t exponent).isOdd) (nonzero : base.val ≠ 0) (s : Bool) :
    finitePower s base t exponent = signed s (magnitudePower base t exponent) := by
  unfold finitePower
  simp only [not_zero_of_isOdd odd, nonzero, isWhole_of_isOdd odd, odd, false_or, if_false,
    Bool.not_true, Bool.and_false, Bool.and_true, Bool.false_eq_true]
  split
  · next trivial =>
    obtain rfl : s = false := by
      rw [one_eq] at trivial
      exact congrArg isNegative trivial
    rw [magnitudePower_one trivial, one_eq]
    rfl
  · rfl

end Finite

variable {x y : Binary64}

theorem exists_finite_of_isOdd (odd : y.isOdd) : ∃ t exponent, y = finite t exponent := by
  cases y with
  | nan => exact absurd odd (by decide)
  | infinity t => cases t <;> exact absurd odd (by decide)
  | finite t exponent => exact ⟨t, exponent, rfl⟩

theorem isZero_of_isOdd (odd : y.isOdd) : y.isZero = false := by
  obtain ⟨t, exponent, rfl⟩ := exists_finite_of_isOdd odd
  exact decide_eq_false (not_zero_of_isOdd odd)

theorem power?_nan (odd : y.isOdd) : power? nan y = .ok nan := by
  have defined : power? nan y = .ok (if y.isZero then one else nan) := by rw [power?]
  rw [defined, isZero_of_isOdd odd]
  rfl

theorem power?_infinity (s : Bool) (odd : y.isOdd) :
    power? (infinity s) y = .ok (if y.isNegative then zero s else infinity s) := by
  obtain ⟨t, exponent, rfl⟩ := exists_finite_of_isOdd odd
  rw [power?, isZero_of_isOdd odd, odd, Bool.and_true]
  · rfl
  · exact nofun

theorem power?_neg (nonzero : ¬ x.isZero) (odd : y.isOdd) :
    power? (-x) y = (power? x y).map (-·) := by
  cases x with
  | nan =>
    show power? nan y = _
    rw [power?_nan odd]
    rfl
  | infinity s =>
    show power? (infinity (!s)) y = _
    rw [power?_infinity (!s) odd, power?_infinity s odd]
    split <;> rfl
  | finite s base =>
    obtain ⟨t, exponent, rfl⟩ := exists_finite_of_isOdd odd
    have magnitude : base.val ≠ 0 := of_decide_eq_false (eq_false_of_ne_true nonzero)
    show finitePower (!s) base t exponent = (finitePower s base t exponent).map (-·)
    rw [finitePower_of_isOdd odd magnitude, finitePower_of_isOdd odd magnitude, signed_not]

def Overflows (x y : Binary64) : Prop := power? x y = .error .overflow

theorem Overflows.power_eq (overflows : Overflows x y) : x.power y = infinity false := by
  rw [power, show power? x y = .error .overflow from overflows]

theorem overflows_neg_iff (nonzero : ¬ x.isZero) (odd : y.isOdd) :
    Overflows (-x) y ↔ Overflows x y := by
  rw [Overflows, Overflows, power?_neg nonzero odd]
  cases power? x y with
  | ok r => exact iff_of_false nofun nofun
  | error fault => exact Iff.rfl

theorem power_neg (nonzero : ¬ x.isZero) (odd : y.isOdd) (small : ¬ Overflows x y) :
    (-x).power y = -(x.power y) := by
  rw [Overflows] at small
  rw [power, power, power?_neg nonzero odd]
  cases result : power? x y with
  | ok r => rfl
  | error fault =>
    cases fault with
    | overflow => exact absurd result small
    | undefined =>
      -- Infinite for a base of zero only, and no number otherwise.
      show (if (-x).isZero then infinity false else nan) =
        -(if x.isZero then infinity false else nan)
      rw [isZero_neg, if_neg nonzero]
      rfl

theorem not_opposite_infinity (s : Bool) : ¬ Opposite (infinity s) (infinity s) := by
  rintro (same | ⟨zero, -⟩)
  · cases s <;> exact absurd same (by decide)
  · exact Bool.false_ne_true zero

theorem not_opposite_of_overflows (nonzero : ¬ x.isZero) (odd : y.isOdd)
    (overflows : Overflows x y) :
    ¬ Opposite (x.power y) ((-x).power y) := by
  rw [overflows.power_eq, ((overflows_neg_iff nonzero odd).2 overflows).power_eq]
  exact not_opposite_infinity false

theorem power_neg_iff (nonzero : ¬ x.isZero) (odd : y.isOdd) :
    (-x).power y = -(x.power y) ↔ ¬ Overflows x y := by
  constructor
  · exact fun negated overflows => not_opposite_of_overflows nonzero odd overflows (.inl negated)
  · exact power_neg nonzero odd

theorem power?_zero (nothing : x.isZero) (odd : y.isOdd) (positive : y.isNegative = false) :
    power? x y = .ok (zero x.isNegative) := by
  obtain ⟨t, exponent, rfl⟩ := exists_finite_of_isOdd odd
  cases x with
  | nan => exact absurd nothing Bool.false_ne_true
  | infinity s => exact absurd nothing Bool.false_ne_true
  | finite s base =>
    obtain rfl : base = ⟨0, by decide⟩ := Fin.ext (of_decide_eq_true nothing)
    obtain rfl : t = false := positive
    have different : ¬ finite s ⟨0, by decide⟩ = one := by
      rw [one_eq]
      simp
    have raised : ¬ (exponent.val = 0 ∨ finite s ⟨0, by decide⟩ = one) :=
      not_or.2 ⟨not_zero_of_isOdd odd, different⟩
    rw [power?, finitePower]
    simp only [raised, odd]
    simp [isNegative]

theorem power_opposite_iff {z : Binary64} (odd : y.isOdd) (positive : y.isNegative = false)
    (opposite : Opposite x z) : Opposite (x.power y) (z.power y) ↔ ¬ Overflows x y := by
  by_cases nothing : x.isZero
  · have first := power?_zero nothing odd positive
    have second := power?_zero (opposite.isZero_iff.1 nothing) odd positive
    rw [Overflows, power, power, first, second]
    exact iff_of_true (.inr ⟨rfl, rfl⟩) nofun
  · obtain rfl : z = -x := opposite.resolve_right fun zeros => nothing zeros.1
    constructor
    · exact fun kept overflows => not_opposite_of_overflows nothing odd overflows kept
    · exact fun small => .inl (power_neg nothing odd small)

end FunctionCalculator.Binary64
