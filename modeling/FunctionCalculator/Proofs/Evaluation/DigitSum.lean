import FunctionCalculator.Builtin.Meaning
import FunctionCalculator.Proofs.Integer.Expansion
import FunctionCalculator.Proofs.Integer.Reversal
import Mathlib.Algebra.BigOperators.ModEq
import Mathlib.Algebra.Order.BigOperators.Group.List
import Mathlib.Data.Int.ModEq
import Mathlib.Data.Nat.Digits.Div
/-!
The two sums over the digits of a number. The sum of the digits takes the sign of the number and
leaves the same remainder by nine. The sum of their squares is the same for both signs; it is at
least as large as the other sum, whatever the sign of that, and of the same parity.
-/

set_option autoImplicit false

namespace FunctionCalculator

namespace Integer

section Digits

theorem sum_digits_modEq (n : Nat) : (digits n).sum ≡ n [MOD 9] := by
  rw [digits_eq]
  exact (Nat.modEq_nine_digits_sum n).symm

-- The highest digit is never zero.
theorem sum_digits_eq_zero_iff {n : Nat} : (digits n).sum = 0 ↔ n = 0 := by
  constructor
  · intro zero
    by_contra nonzero
    obtain ⟨values, d, split, top⟩ := exists_digits_eq_append nonzero
    exact top (List.sum_eq_zero_iff_forall_eq_nat.1 zero d (by simp [split]))
  · rintro rfl
    simp [digits]

theorem sum_le_sum_squares (values : List Nat) :
    values.sum ≤ (values.map fun d => d * d).sum := by
  calc
    values.sum = (values.map id).sum := by rw [List.map_id]
    _ ≤ (values.map fun d => d * d).sum := List.sum_le_sum fun d _ => Nat.le_mul_self d

theorem sum_squares_modEq (values : List Nat) :
    (values.map fun d => d * d).sum ≡ values.sum [MOD 2] := by
  calc
    (values.map fun d => d * d).sum ≡ (values.map id).sum [MOD 2] := by
      refine Nat.ModEq.listSum_map fun d _ => ?_
      obtain even | odd := Nat.mod_two_eq_zero_or_one d
      · simp [Nat.ModEq, Nat.mul_mod, even]
      · simp [Nat.ModEq, Nat.mul_mod, odd]
    _ = values.sum := by rw [List.map_id]

end Digits

section Signs

variable {n : Int}

theorem digitSum_eq_sign_mul (n : Int) : digitSum n = n.sign * (digits n.natAbs).sum := by
  rw [digitSum_eq, List.map_id]
  obtain negative | rfl | positive := Int.lt_trichotomy n 0
  · simp [signed, negative, Int.sign_eq_neg_one_of_neg negative]
  · simp [signed, digits]
  · simp [signed, Int.not_lt.2 (Int.le_of_lt positive), Int.sign_eq_one_of_pos positive]

theorem digitSum_neg (n : Int) : digitSum (-n) = -digitSum n := by
  rw [digitSum_eq_sign_mul, digitSum_eq_sign_mul, Int.sign_neg, Int.natAbs_neg, Int.neg_mul]

theorem natAbs_digitSum (n : Int) : (digitSum n).natAbs = (digits n.natAbs).sum := by
  rw [digitSum_eq, List.map_id, natAbs_signed]

theorem digitSum_modEq (n : Int) : digitSum n ≡ n [ZMOD 9] := by
  have magnitude : ((digits n.natAbs).sum : Int) ≡ n.natAbs [ZMOD 9] :=
    Int.natCast_modEq_iff.2 (sum_digits_modEq n.natAbs)
  calc
    digitSum n = n.sign * (digits n.natAbs).sum := digitSum_eq_sign_mul n
    _ ≡ n.sign * n.natAbs [ZMOD 9] := magnitude.mul_left n.sign
    _ = n := Int.sign_mul_natAbs n

theorem digitSum_eq_zero_iff : digitSum n = 0 ↔ n = 0 := by
  rw [← Int.natAbs_eq_zero, natAbs_digitSum, sum_digits_eq_zero_iff, Int.natAbs_eq_zero]

theorem digitSquareSum_neg (n : Int) : digitSquareSum (-n) = digitSquareSum n := by
  rw [digitSquareSum, Int.natAbs_neg, digitSquareSum]

theorem natAbs_digitSum_le (n : Int) : (digitSum n).natAbs ≤ digitSquareSum n := by
  rw [natAbs_digitSum, digitSquareSum_eq, Int.ofNat_le]
  exact sum_le_sum_squares _

theorem digitSquareSum_modEq (n : Int) : digitSquareSum n ≡ digitSum n [ZMOD 2] := by
  have squares : digitSquareSum n ≡ (digitSum n).natAbs [ZMOD 2] := by
    rw [natAbs_digitSum, digitSquareSum_eq]
    exact Int.natCast_modEq_iff.2 (sum_squares_modEq _)
  refine squares.trans ?_
  simp only [Int.ModEq]
  omega

end Signs

end Integer

namespace Builtin

/-- Taking digits off a number ends, and gives its one decimal expansion. The sum of the digits
keeps the remainder by nine and the sign, and the sum of their squares bounds it and has its parity.
-/
theorem digit_sums_of_expansion (a : Int) :
    (Integer.TurnsEnd a.natAbs ∧
      (∀ given, Integer.Turns a.natAbs given 0 ↔ given = Integer.digits a.natAbs) ∧
      (∀ given, Integer.Expansion a.natAbs given ↔ given = Integer.digits a.natAbs) ∧
      (Integer.digits a.natAbs = [] ↔ a = 0)) ∧
    ∃ sum squares : Int,
      meaning .sumOfDigits a = .ok (.int sum) ∧
      sum.natAbs = (Integer.digits a.natAbs).sum ∧
      sum ≡ a [ZMOD 9] ∧
      meaning .sumOfDigits (-a) = .ok (.int (-sum)) ∧
      (sum = 0 ↔ a = 0) ∧
      meaning .sumOfSquares a = .ok (.int squares) ∧
      squares = ((Integer.digits a.natAbs).map fun d => d * d).sum ∧
      meaning .sumOfSquares (-a) = .ok (.int squares) ∧
      sum.natAbs ≤ squares ∧ squares ≡ sum [ZMOD 2] := by
  have opposite : meaning .sumOfDigits (-a) = .ok (.int (-Integer.digitSum a)) :=
    congrArg int (Integer.digitSum_neg a)
  have oppositeSquares : meaning .sumOfSquares (-a) = .ok (.int (Integer.digitSquareSum a)) :=
    congrArg int (Integer.digitSquareSum_neg a)
  have empty : Integer.digits a.natAbs = [] ↔ a = 0 := by
    rw [Integer.digits_eq, Nat.digits_eq_nil_iff_eq_zero, Int.natAbs_eq_zero]
  constructor
  · exact ⟨Integer.turnsEnd _, fun _ => Integer.turns_zero_iff, fun _ => Integer.expansion_iff,
      empty⟩
  · refine ⟨Integer.digitSum a, Integer.digitSquareSum a, rfl, Integer.natAbs_digitSum a,
      Integer.digitSum_modEq a, opposite, Integer.digitSum_eq_zero_iff, rfl, ?_⟩
    exact ⟨Integer.digitSquareSum_eq a, oppositeSquares, Integer.natAbs_digitSum_le a,
      Integer.digitSquareSum_modEq a⟩

end Builtin
end FunctionCalculator
