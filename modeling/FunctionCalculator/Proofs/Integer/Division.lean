import FunctionCalculator.Integer.Arithmetic
import Mathlib.Data.Int.Init
/-!
Division toward zero. The remainder of the absolute values takes the sign of the dividend, and their
quotient is negative when the two signs differ; no other pair of quotient and remainder is so small
and of the right sign.
-/

set_option autoImplicit false

namespace FunctionCalculator.Integer

/-- A quotient and a remainder that is smaller than the divisor and zero or of the sign of the
dividend. -/
structure Truncates (a b q r : Int) : Prop where
  whole : a = q * b + r
  small : r.natAbs < b.natAbs
  sign : r = 0 ∨ r.sign = a.sign

variable {a b q r : Int}

section Signs

theorem signedRemainder_eq_tmod (a b : Int) : signedRemainder a b = a.tmod b := by
  cases a <;> cases b <;> simp [Int.tmod, signedRemainder, signed, Int.not_ofNat_neg]

theorem signedQuotient_eq_tdiv (a b : Int) : signedQuotient a b = a.tdiv b := by
  cases a <;> cases b <;> simp [Int.tdiv, signedQuotient, signed, Int.not_ofNat_neg]

theorem remainder_of_ne (a : Int) (nonzero : b ≠ 0) : remainder a b = .ok (a.tmod b) := by
  rw [remainder, if_neg nonzero, signedRemainder_eq_tmod]

theorem quotient_of_ne (a : Int) (nonzero : b ≠ 0) : quotient a b = .ok (a.tdiv b) := by
  rw [quotient, if_neg nonzero, signedQuotient_eq_tdiv]

end Signs

section Pairs

theorem truncates_tdiv_tmod (nonzero : b ≠ 0) : Truncates a b (a.tdiv b) (a.tmod b) where
  whole := by rw [Int.mul_comm, Int.mul_tdiv_add_tmod]
  small := by
    rw [Int.natAbs_tmod]
    exact Nat.mod_lt _ (Int.natAbs_pos.2 nonzero)
  sign := by
    rw [← Int.sign_eq_zero_iff_zero, Int.sign_tmod]
    split
    · exact .inl rfl
    · exact .inr rfl

theorem Truncates.nonzero (truncates : Truncates a b q r) : b ≠ 0 :=
  Int.natAbs_pos.1 (Nat.zero_lt_of_lt truncates.small)

-- The bounds of the remainder are on the side of the dividend.
theorem Truncates.eq_tdiv_tmod (truncates : Truncates a b q r) :
    a.tdiv b = q ∧ a.tmod b = r := by
  have sum : r + b * q = a := by rw [truncates.whole, Int.mul_comm, Int.add_comm]
  have small := truncates.small
  obtain nonneg | nonpos := Int.le_total 0 a
  · have side : 0 ≤ r := by
      obtain zero | same := truncates.sign
      · exact Int.le_of_eq zero.symm
      · rwa [← Int.sign_nonneg_iff, same, Int.sign_nonneg_iff]
    exact (Int.tdiv_tmod_unique nonneg truncates.nonzero).2 ⟨sum, side, by omega⟩
  · have side : r ≤ 0 := by
      obtain zero | same := truncates.sign
      · exact Int.le_of_eq zero
      · rwa [← Int.sign_nonpos_iff, same, Int.sign_nonpos_iff]
    exact (Int.tdiv_tmod_unique' nonpos truncates.nonzero).2 ⟨sum, by omega, side⟩

theorem divided_iff :
    quotient a b = .ok q ∧ remainder a b = .ok r ↔ Truncates a b q r := by
  constructor
  · rintro ⟨divided, left⟩
    by_cases zero : b = 0
    · cases (if_pos zero).symm.trans divided
    · obtain rfl := Except.ok.inj ((quotient_of_ne a zero).symm.trans divided)
      obtain rfl := Except.ok.inj ((remainder_of_ne a zero).symm.trans left)
      exact truncates_tdiv_tmod zero
  · intro truncates
    obtain ⟨rfl, rfl⟩ := truncates.eq_tdiv_tmod
    exact ⟨quotient_of_ne a truncates.nonzero, remainder_of_ne a truncates.nonzero⟩

end Pairs

end FunctionCalculator.Integer
