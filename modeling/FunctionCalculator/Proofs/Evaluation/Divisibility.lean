import FunctionCalculator.Proofs.Evaluation.Outcome
import FunctionCalculator.Proofs.Integer.Division
import FunctionCalculator.Proofs.Integer.Euclid
/-!
The builtins that rest on division toward zero. The remainder tells the multiples, and the even
numbers among all. The least common multiple is the product of two numbers divided by their common
divisor; the division is exact, and its divisor is zero only when both numbers are.
-/

set_option autoImplicit false

namespace FunctionCalculator

namespace Integer

variable {a b m : Int}

theorem gcd_mul_of_lcm (computed : lcm a b = .ok m) : gcd a b ≠ 0 ∧ gcd a b * m = a * b := by
  rw [lcm] at computed
  by_cases zero : gcd a b = 0
  · rw [quotient, if_pos zero] at computed
    cases computed
  · rw [quotient_of_ne _ zero] at computed
    obtain rfl := Except.ok.inj computed
    have divides : gcd a b ∣ a * b := Dvd.dvd.mul_right (gcd_dvd a b).1 b
    exact ⟨zero, Int.mul_tdiv_cancel' divides⟩

theorem natAbs_of_lcm (computed : lcm a b = .ok m) : m.natAbs = Nat.lcm a.natAbs b.natAbs := by
  obtain ⟨nonzero, product⟩ := gcd_mul_of_lcm computed
  have positive : 0 < Int.gcd a b := natAbs_gcd a b ▸ Int.natAbs_pos.2 nonzero
  refine Nat.eq_of_mul_eq_mul_left positive ?_
  calc
    Int.gcd a b * m.natAbs = (gcd a b * m).natAbs := by rw [Int.natAbs_mul, natAbs_gcd]
    _ = a.natAbs * b.natAbs := by rw [product, Int.natAbs_mul]
    _ = Int.gcd a b * Nat.lcm a.natAbs b.natAbs := (Int.gcd_mul_lcm a b).symm

theorem dvd_of_lcm (computed : lcm a b = .ok m) : a ∣ m ∧ b ∣ m := by
  rw [← Int.natAbs_dvd_natAbs, ← Int.natAbs_dvd_natAbs, natAbs_of_lcm computed]
  exact ⟨Nat.dvd_lcm_left .., Nat.dvd_lcm_right ..⟩

theorem lcm_comm_of_add_ne (other : a + b ≠ 0) : lcm a b = lcm b a := by
  rw [lcm, lcm, Int.mul_comm, gcd_comm_of_add_ne other]

theorem lcm_neg (nonzero : a ≠ 0) : lcm a (-a) = .ok a := by
  have opposite : -a ≠ 0 := Int.neg_ne_zero.2 nonzero
  rw [lcm, gcd_neg, quotient_of_ne _ opposite, Int.mul_tdiv_cancel a opposite]

end Integer

namespace Builtin

/-- Only two zeros have no least common multiple. For all others it gives, times their common
divisor, exactly their product, sign included. -/
theorem lcm_exact (a b : Int) :
    (meaning .lcm a b = .error (.fault .zeroQuotient) ↔ a = 0 ∧ b = 0) ∧
      (¬ (a = 0 ∧ b = 0) → ∃ m, meaning .lcm a b = .ok (.int m) ∧
        Integer.gcd a b * m = a * b ∧ (a ∣ m ∧ b ∣ m) ∧
        m.natAbs = Nat.lcm a.natAbs b.natAbs) := by
  have computed : meaning .lcm a b = checked .int (Integer.lcm a b) := rfl
  rw [computed]
  by_cases zero : a = 0 ∧ b = 0
  · rw [Evaluation.lcm_of_zero zero]
    exact ⟨iff_of_true rfl zero, fun nonzero => absurd zero nonzero⟩
  · obtain ⟨m, multiple⟩ := Evaluation.lcm_of_nonzero zero
    rw [multiple]
    refine ⟨iff_of_false (by simp [checked]) zero, fun _ => ⟨m, rfl, ?_, ?_, ?_⟩⟩
    · exact (Integer.gcd_mul_of_lcm multiple).2
    · exact Integer.dvd_of_lcm multiple
    · exact Integer.natAbs_of_lcm multiple

/-- The order of two numbers decides nothing, unless one is the opposite of the other: then it
decides the signs. -/
theorem gcd_lcm_order (a b : Int) :
    (a + b ≠ 0 → Integer.gcd a b = Integer.gcd b a ∧ meaning .lcm a b = meaning .lcm b a) ∧
      (b = -a → Integer.gcd a b = b ∧ (a ≠ 0 → meaning .lcm a b = .ok (.int a))) := by
  have computed (a b : Int) : meaning .lcm a b = checked .int (Integer.lcm a b) := rfl
  rw [computed, computed]
  constructor
  · intro other
    rw [Integer.lcm_comm_of_add_ne other]
    exact ⟨Integer.gcd_comm_of_add_ne other, rfl⟩
  · rintro rfl
    refine ⟨Integer.gcd_neg a, fun nonzero => ?_⟩
    rw [Integer.lcm_neg nonzero]
    rfl

section Multiples

theorem meaning_isMultiple (a b : Int) :
    meaning .isMultiple a b =
      if b = 0 then .error (.fault .zeroRemainder) else .ok (.bool (decide (b ∣ a))) := by
  show checked .bool ((Integer.remainder a b).map (· = 0)) =
    if b = 0 then .error (.fault .zeroRemainder) else .ok (.bool (decide (b ∣ a)))
  by_cases zero : b = 0
  · rw [if_pos zero, Integer.remainder, if_pos zero]
    rfl
  · rw [if_neg zero, Evaluation.checked_remainder (· = 0) a zero]
    simp [Int.dvd_iff_tmod_eq_zero]

theorem meaning_modulus_iff (a b : Int) :
    meaning .modulus a b = .ok (.int 0) ↔ b ≠ 0 ∧ b ∣ a := by
  show (if b = 0 then .error .moduloByZero else checked .int (Integer.remainder a b)) =
    Except.ok (Value.int 0) ↔ _
  by_cases zero : b = 0
  · simp [zero]
  · rw [if_neg zero, Integer.remainder_of_ne a zero, Int.dvd_iff_tmod_eq_zero]
    simp [checked, zero]

theorem meaning_isOdd (a : Int) : meaning .isOdd a = .ok (.bool (!decide (2 ∣ a))) := by
  show checked .bool ((Integer.remainder a 2).map (· ≠ 0)) = .ok (.bool (!decide (2 ∣ a)))
  rw [Evaluation.checked_remainder (· ≠ 0) a two_ne_zero]
  simp [Int.dvd_iff_tmod_eq_zero]

end Multiples

/-- Division toward zero gives the one pair of a quotient and a small remainder of the right sign. A
number is a multiple just when nothing remains, and even just when it is a multiple of two. -/
theorem truncated_division (a b : Int) :
    (Integer.quotient a b =
        if b = 0 then .error .zeroQuotient
        else .ok (Integer.signed (a < 0 ^^ b < 0) (a.natAbs / b.natAbs))) ∧
      (Integer.remainder a b =
        if b = 0 then .error .zeroRemainder
        else .ok (Integer.signed (a < 0) (a.natAbs % b.natAbs))) ∧
      (∀ q r, Integer.quotient a b = .ok q ∧ Integer.remainder a b = .ok r ↔
        Integer.Truncates a b q r) ∧
      (meaning .isMultiple a b =
        if b = 0 then .error (.fault .zeroRemainder) else .ok (.bool (decide (b ∣ a)))) ∧
      (meaning .modulus a b = .ok (.int 0) ↔ b ≠ 0 ∧ b ∣ a) ∧
      ∃ even, meaning .isEven a = .ok (.bool even) ∧ meaning .isOdd a = .ok (.bool !even) ∧
        meaning .isMultiple a 2 = .ok (.bool even) := by
  have multiple : meaning .isMultiple a 2 = .ok (.bool (decide (2 ∣ a))) := meaning_isMultiple a 2
  refine ⟨rfl, rfl, fun _ _ => Integer.divided_iff, meaning_isMultiple a b,
    meaning_modulus_iff a b, ?_⟩
  exact ⟨_, multiple, meaning_isOdd a, multiple⟩

end Builtin
end FunctionCalculator
