import FunctionCalculator.Binary64.Basic
import Mathlib.Order.Monotone.Basic
import Mathlib.Tactic.Linarith
import Mathlib.Tactic.Ring
/-!
Magnitudes and their ranks. Every magnitude is a significand times a power of two, and the list of
all of them is strictly increasing.
-/

set_option autoImplicit false

namespace FunctionCalculator.Binary64

theorem binade_pos : 0 < binade := by decide

/-- A significand, and the exponent of the power of two that scales it. Only the numbers below the
first power of two of full length have fewer digits. -/
structure Scaled (significand exponent : Nat) : Prop where
  within : significand < 2 * binade
  full : exponent = 0 ∨ binade ≤ significand

-- A significand that has just grown by a digit still has the rank of its value.
theorem unitsOfRank_add {significand exponent : Nat} (within : significand ≤ 2 * binade)
    (full : exponent = 0 ∨ binade ≤ significand) :
    unitsOfRank (exponent * binade + significand) = significand * 2 ^ exponent := by
  rw [unitsOfRank, Nat.shiftLeft_eq]
  by_cases short : significand < binade
  · obtain rfl : exponent = 0 := full.resolve_right (Nat.not_le.2 short)
    simp [short]
  · obtain ⟨rest, rfl⟩ := Nat.exists_eq_add_of_le (Nat.not_lt.1 short)
    have place : exponent * binade + (binade + rest) = rest + binade * (exponent + 1) := by ring
    rw [if_neg (by omega), place, Nat.add_mul_mod_self_left, Nat.add_mul_div_left _ _ binade_pos]
    obtain below | rfl := Nat.lt_or_eq_of_le (show rest ≤ binade by omega)
    · rw [Nat.mod_eq_of_lt below, Nat.div_eq_of_lt below, Nat.zero_add, Nat.add_sub_cancel]
    · rw [Nat.mod_self, Nat.div_self binade_pos, Nat.add_sub_cancel_left, Nat.pow_succ]
      ring

theorem exists_scaled (rank : Nat) :
    ∃ significand exponent, Scaled significand exponent ∧
      rank = exponent * binade + significand := by
  have split := Nat.div_add_mod' rank binade
  have small := Nat.mod_lt rank binade_pos
  cases place : rank / binade with
  | zero =>
    rw [place] at split
    exact ⟨rank % binade, 0, ⟨by omega, .inl rfl⟩, by omega⟩
  | succ exponent =>
    rw [place, Nat.succ_mul] at split
    exact ⟨binade + rank % binade, exponent, ⟨by omega, .inr (Nat.le_add_right _ _)⟩, by omega⟩

section Neighbours

variable {significand exponent : Nat}

theorem Scaled.units (scaled : Scaled significand exponent) :
    unitsOfRank (exponent * binade + significand) = significand * 2 ^ exponent :=
  unitsOfRank_add scaled.within.le scaled.full

theorem Scaled.units_succ (scaled : Scaled significand exponent) :
    unitsOfRank (exponent * binade + significand + 1) = (significand + 1) * 2 ^ exponent := by
  rw [Nat.add_assoc]
  exact unitsOfRank_add (Nat.succ_le_of_lt scaled.within) (scaled.full.imp_right Nat.le_succ_of_le)

theorem Scaled.le_exponent (scaled : Scaled significand exponent) {bits : Nat}
    (large : (bits + 1) * binade ≤ exponent * binade + significand) : bits ≤ exponent := by
  have reached : (bits + 1) * binade < (exponent + 2) * binade := by
    have := scaled.within
    linarith
  have := Nat.lt_of_mul_lt_mul_right reached
  omega

end Neighbours

theorem two_pow_dvd_unitsOfRank {bits rank : Nat} (large : (bits + 1) * binade ≤ rank) :
    2 ^ bits ∣ unitsOfRank rank := by
  obtain ⟨significand, exponent, scaled, rfl⟩ := exists_scaled rank
  rw [scaled.units]
  exact Dvd.dvd.mul_left (Nat.pow_dvd_pow 2 (scaled.le_exponent large)) significand

theorem unitsOfRank_strictMono : StrictMono unitsOfRank := by
  refine strictMono_nat_of_lt_succ fun rank => ?_
  obtain ⟨significand, exponent, scaled, rfl⟩ := exists_scaled rank
  rw [scaled.units, scaled.units_succ]
  exact Nat.mul_lt_mul_of_pos_right (Nat.lt_succ_self _) (Nat.two_pow_pos exponent)

theorem exists_rank {significand : Nat} (within : significand < 2 * binade) (exponent : Nat) :
    ∃ rank, unitsOfRank rank = significand * 2 ^ exponent := by
  induction exponent generalizing significand with
  | zero => exact ⟨_, Scaled.units ⟨within, .inl rfl⟩⟩
  | succ exponent ih =>
    by_cases full : binade ≤ significand
    · exact ⟨_, Scaled.units ⟨within, .inr full⟩⟩
    · obtain ⟨rank, same⟩ := ih (show 2 * significand < 2 * binade by omega)
      refine ⟨rank, same.trans ?_⟩
      rw [Nat.pow_succ]
      ring

end FunctionCalculator.Binary64
