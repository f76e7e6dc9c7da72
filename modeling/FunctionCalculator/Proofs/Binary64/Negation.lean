import FunctionCalculator.Binary64.Arithmetic
import FunctionCalculator.Proofs.Binary64.Nearest
/-!
The opposite double. Rounding does not see the sign, so opposite numbers are rounded to opposite
doubles, except that there are two zeros.
-/

set_option autoImplicit false

namespace FunctionCalculator.Binary64

def Opposite (x y : Binary64) : Prop := y = -x ∨ (x.isZero ∧ y.isZero)

@[simp] theorem negate_negate (x : Binary64) : - -x = x := by
  cases x with
  | nan => rfl
  | infinity negative => exact congrArg infinity (Bool.not_not negative)
  | finite negative rank => exact congrArg (finite · rank) (Bool.not_not negative)

@[simp] theorem isZero_neg (x : Binary64) : (-x).isZero = x.isZero := by
  cases x <;> rfl

theorem Opposite.isZero_iff {x y : Binary64} (opposite : Opposite x y) : x.isZero ↔ y.isZero := by
  obtain rfl | zeros := opposite
  · rw [isZero_neg]
  · exact iff_of_true zeros.1 zeros.2

theorem exact_not (negative : Bool) (rank : Nat) :
    exact (!negative) rank = -exact negative rank := by
  cases negative with
  | false => exact exact_true rank
  | true =>
    rw [exact_true, neg_neg]
    rfl

variable {q : ℚ}

theorem ofMagnitude_not (negative : Bool) (q : ℚ) :
    ofMagnitude (!negative) (-q) = -(ofMagnitude negative q) := by
  unfold ofMagnitude
  rw [Rat.num_neg_eq_neg_num, Int.natAbs_neg, Rat.den_neg_eq_den]
  dsimp only
  split <;> rfl

theorem ofRat_neg (nonzero : q ≠ 0) (s t : Bool) : ofRat s (-q) = -(ofRat t q) := by
  have sign : decide (-q < 0) = !decide (q < 0) := by
    rw [← decide_not, decide_eq_decide, neg_lt_zero, not_lt]
    exact ⟨le_of_lt, fun le => lt_of_le_of_ne le nonzero.symm⟩
  rw [ofRat, ofRat, if_neg nonzero, if_neg (neg_ne_zero.2 nonzero), sign, ofMagnitude_not]

theorem isZero_ofRat_zero (negative : Bool) : (ofRat negative 0).isZero := by
  cases negative <;> decide +kernel

theorem finite_sub_finite (s t : Bool) (rank other : Fin finiteRanks) :
    finite s rank - finite t other = ofRat (s && !t) (exact s rank - exact t other) := by
  rw [sub_eq_add_neg, ← exact_not]
  rfl

theorem sub_opposite (x y : Binary64) : Opposite (x - y) (y - x) := by
  cases x with
  | nan => cases y <;> exact .inl rfl
  | infinity s =>
    cases y with
    | nan => exact .inl rfl
    | infinity t => cases s <;> cases t <;> exact .inl rfl
    | finite t other => exact .inl rfl
  | finite s rank =>
    cases y with
    | nan => exact .inl rfl
    | infinity t => cases t <;> exact .inl rfl
    | finite t other =>
      rw [finite_sub_finite, finite_sub_finite, ← neg_sub (exact s rank)]
      by_cases same : exact s rank - exact t other = 0
      · rw [same, neg_zero]
        exact .inr ⟨isZero_ofRat_zero _, isZero_ofRat_zero _⟩
      · exact .inl (ofRat_neg same _ _)

end FunctionCalculator.Binary64
