import FunctionCalculator.Integer.Arithmetic
import Mathlib.Data.Nat.Prime.Defs
/-!
Trial division decides primality: a number without a divisor up to its whole square root has none
but one and itself.
-/

set_option autoImplicit false

namespace FunctionCalculator.Integer

theorem noDivisorFrom_iff (n last i : Nat) :
    noDivisorFrom n last i = true ↔ ∀ d, i ≤ d → d ≤ last → ¬ d ∣ n := by
  fun_induction noDivisorFrom n last i with
  | case1 i within divides =>
    refine iff_of_false Bool.false_ne_true fun free => ?_
    exact free i le_rfl within (Nat.dvd_of_mod_eq_zero divides)
  | case2 i within other ih =>
    have first : ¬ i ∣ n := mt Nat.mod_eq_zero_of_dvd other
    rw [ih]
    constructor
    · intro later d start within
      obtain rfl | after := Nat.eq_or_lt_of_le start
      · exact first
      · exact later d after within
    · intro all d after
      exact all d (Nat.le_of_succ_le after)
  | case3 i beyond =>
    refine iff_of_true rfl fun d start within => ?_
    exact absurd (start.trans within) beyond

theorem isPrime_natCast_iff (n : Nat) : isPrime n = true ↔ n.Prime := by
  rw [isPrime, Bool.and_eq_true, decide_eq_true_eq, Int.toNat_natCast, noDivisorFrom_iff,
    Nat.prime_def_le_sqrt]
  refine and_congr_left' ?_
  omega

theorem trivial_divisors_natCast_iff {n : Nat} (positive : 0 < n) :
    (∀ d : Int, 0 < d → d ∣ n → d = 1 ∨ d = n) ↔ ∀ d : Nat, d ∣ n → d = 1 ∨ d = n := by
  constructor
  · intro divisors d divides
    have above : (0 : Int) < d := Int.natCast_pos.2 (Nat.pos_of_dvd_of_pos divides positive)
    exact_mod_cast divisors d above (Int.natCast_dvd_natCast.2 divides)
  · intro divisors d above divides
    obtain ⟨m, rfl⟩ := Int.eq_ofNat_of_zero_le (Int.le_of_lt above)
    exact_mod_cast divisors m (Int.natCast_dvd_natCast.1 divides)

theorem isPrime_iff (n : Int) :
    isPrime n = true ↔ 1 < n ∧ ∀ d : Int, 0 < d → d ∣ n → d = 1 ∨ d = n := by
  by_cases above : 1 < n
  · obtain ⟨m, rfl⟩ := Int.eq_ofNat_of_zero_le (show 0 ≤ n by omega)
    rw [isPrime_natCast_iff, Nat.prime_def, trivial_divisors_natCast_iff (by omega)]
    refine and_congr_left' ?_
    omega
  · exact iff_of_false (by simp [isPrime, above]) fun prime => above prime.1

-- The only divisor of the square of a prime is its root, the last number that is tried.
example : isPrime 49 = false := by decide +kernel

end FunctionCalculator.Integer
