import FunctionCalculator.Binary64.Root
import FunctionCalculator.Proofs.Binary64.Nearest
import FunctionCalculator.Proofs.Integer.Root
/-!
The square root of a double is the double nearest to the real root. The binary digits that are kept,
and the bit for the rest of them, tell every middle between two neighbours from the root.
-/

set_option autoImplicit false

namespace FunctionCalculator

namespace Integer

def stickyRoot (degree n : Nat) : Nat :=
  2 * floorRoot degree n + if Nat.pow (floorRoot degree n) degree = n then 0 else 1

variable {degree n k : Nat}

theorem stickyRoot_lt_iff (positive : 0 < degree) :
    stickyRoot degree n < 2 * k ↔ n < k ^ degree := by
  rw [← Nat.not_le, ← Nat.not_le, ← le_floorRoot_iff positive, stickyRoot]
  split <;> omega

theorem lt_stickyRoot_iff (positive : 0 < degree) :
    2 * k < stickyRoot degree n ↔ k ^ degree < n := by
  have root := le_floorRoot_iff positive (n := n) (k := k)
  have below : floorRoot degree n ^ degree ≤ n := (le_floorRoot_iff positive).1 le_rfl
  rw [stickyRoot]
  split
  · next whole =>
    have power : k ^ degree < floorRoot degree n ^ degree ↔ k < floorRoot degree n :=
      Nat.pow_lt_pow_iff_left (Nat.ne_of_gt positive)
    rw [show floorRoot degree n ^ degree = n from whole] at power
    rw [power]
    omega
  · next inexact =>
    have strict : floorRoot degree n ^ degree < n := Nat.lt_of_le_of_ne below inexact
    constructor
    · intro within
      exact (Nat.pow_le_pow_left (show k ≤ floorRoot degree n by omega) degree).trans_lt strict
    · intro less
      have within := root.2 less.le
      omega

end Integer

namespace Binary64

theorem rootEnclosure_eq (degree n bits : Nat) :
    rootEnclosure degree n bits =
      Integer.stickyRoot degree (n * 2 ^ (degree * 64)) / 2 ^ (bits + 65) := by
  rw [rootEnclosure, Rat.mkRat_eq_div, Nat.one_shiftLeft, Int.cast_natCast, Nat.cast_pow,
    Nat.cast_ofNat, Nat.shiftLeft_eq]
  rfl

section Comparison

variable {units middle : Nat}

-- The place of the last digit of a root, which no step is to evaluate.
theorem rootUnit_pos : (0 : ℚ) < 2 ^ 600 := pow_pos two_pos 600

theorem middle_eq (middle : Nat) :
    ((middle * 2 ^ 474 : Nat) : ℚ) / 2 ^ unitBits = middle / 2 ^ 600 := by
  rw [show unitBits = 600 + 474 from rfl, pow_add, Nat.cast_mul, Nat.cast_pow, Nat.cast_ofNat]
  exact mul_div_mul_right _ _ (pow_ne_zero 474 two_ne_zero)

theorem two_mul_rootEnclosure (units : Nat) :
    2 * rootEnclosure 2 units 537 = Integer.stickyRoot 2 (units * 2 ^ 128) / 2 / 2 ^ 600 := by
  rw [rootEnclosure_eq, show 537 + 65 = 600 + 2 from rfl, pow_add]
  generalize (2 : ℚ) ^ 600 = place
  ring

theorem four_mul_units (units : Nat) :
    4 * ((units : ℚ) / 2 ^ unitBits) = (units * 2 ^ 128 : Nat) / (2 ^ 600) ^ 2 := by
  rw [← pow_mul, show 600 * 2 = unitBits + 126 from rfl, pow_add, Nat.cast_mul, Nat.cast_pow,
    Nat.cast_ofNat]
  generalize (2 : ℚ) ^ unitBits = unit
  ring

theorem rootEnclosure_lt_iff :
    2 * rootEnclosure 2 units 537 < (middle * 2 ^ 474 : Nat) / 2 ^ unitBits ↔
      4 * (units / 2 ^ unitBits) < ((middle * 2 ^ 474 : Nat) / 2 ^ unitBits : ℚ) ^ 2 := by
  rw [middle_eq, two_mul_rootEnclosure, four_mul_units, div_pow,
    div_lt_div_iff_of_pos_right rootUnit_pos, div_lt_div_iff_of_pos_right (pow_pos rootUnit_pos 2),
    div_lt_iff₀ two_pos, ← Nat.cast_pow, Nat.cast_lt, ← Integer.stickyRoot_lt_iff two_pos]
  norm_cast
  rw [Nat.mul_comm middle]

theorem lt_rootEnclosure_iff :
    ((middle * 2 ^ 474 : Nat) / 2 ^ unitBits : ℚ) < 2 * rootEnclosure 2 units 537 ↔
      ((middle * 2 ^ 474 : Nat) / 2 ^ unitBits : ℚ) ^ 2 < 4 * (units / 2 ^ unitBits) := by
  rw [middle_eq, two_mul_rootEnclosure, four_mul_units, div_pow,
    div_lt_div_iff_of_pos_right rootUnit_pos, div_lt_div_iff_of_pos_right (pow_pos rootUnit_pos 2),
    lt_div_iff₀ two_pos, ← Nat.cast_pow, Nat.cast_lt, ← Integer.lt_stickyRoot_iff two_pos]
  norm_cast
  rw [Nat.mul_comm middle]

end Comparison

theorem exists_middle {rank : Nat} (large : (474 + 1) * binade ≤ rank) :
    ∃ middle : Nat,
      exact false rank + exact false (rank + 1) = (middle * 2 ^ 474 : Nat) / 2 ^ unitBits := by
  have lower := two_pow_dvd_unitsOfRank large
  have upper := two_pow_dvd_unitsOfRank (Nat.le_succ_of_le large)
  obtain ⟨middle, sum⟩ := Nat.dvd_add lower upper
  refine ⟨middle, ?_⟩
  rw [exact_add_exact, sum, Nat.mul_comm middle]

-- Even the smallest magnitude has a root of at least this rank. The exponent is a variable, so that
-- no step evaluates the power.
theorem large_of_root {bits rank root : Nat} (known : bits = 475) (nonzero : rank ≠ 0)
    (below : 4 * exact false rank < (exact false root + exact false (root + 1)) ^ 2) :
    (bits + 1) * binade ≤ root := by
  by_contra less
  rw [Nat.succ_mul] at less
  have top := exact_false (bits * binade + binade)
  rw [Scaled.units ⟨by decide, .inr le_rfl⟩, Nat.cast_mul, Nat.cast_pow, Nat.cast_ofNat] at top
  have places : ((binade : ℚ) * 2 ^ bits) ^ 2 ≤ 2 ^ unitBits := by
    rw [binade_eq, Nat.cast_pow, Nat.cast_ofNat, ← pow_add, ← pow_mul]
    exact pow_le_pow_right₀ one_le_two (by rw [known]; decide)
  have smallest : 1 / 2 ^ unitBits ≤ exact false rank := by
    have first := exact_strictMono.monotone (Nat.one_le_iff_ne_zero.2 nonzero)
    rwa [exact_false 1, show unitsOfRank 1 = 1 from rfl, Nat.cast_one] at first
  have lower := exact_strictMono.monotone (show root ≤ bits * binade + binade by omega)
  have upper := exact_strictMono.monotone (show root + 1 ≤ bits * binade + binade by omega)
  have nonneg := add_nonneg (exact_nonneg root) (exact_nonneg (root + 1))
  rw [top] at lower upper
  generalize (binade : ℚ) * 2 ^ bits = width at *
  refine not_le_of_gt below ?_
  calc
    (exact false root + exact false (root + 1)) ^ 2 ≤ (2 * (width / 2 ^ unitBits)) ^ 2 :=
      pow_le_pow_left₀ nonneg (by linarith) 2
    _ = 4 * (width ^ 2 / 2 ^ unitBits / 2 ^ unitBits) := by ring
    _ ≤ 4 * (1 / 2 ^ unitBits) := by
      have within : width ^ 2 / 2 ^ unitBits ≤ 1 := (div_le_one₀ unit_pos).2 places
      have := div_le_div_of_nonneg_right within unit_pos.le
      linarith
    _ ≤ 4 * exact false rank := by linarith

theorem rootEnclosure_nonneg (degree n bits : Nat) : 0 ≤ rootEnclosure degree n bits := by
  rw [rootEnclosure_eq]
  exact div_nonneg (Nat.cast_nonneg _) (pow_nonneg zero_le_two _)

/-- The square root is the magnitude that its argument singles out: the one whose middles with its
two neighbours have squares below and above the argument. -/
theorem sqrt_eq {rank : Fin finiteRanks} {root : Nat} (small : root + 1 < finiteRanks)
    (above : (exact false root + exact false (root + 1)) ^ 2 < 4 * exact false rank)
    (below : 4 * exact false rank < (exact false (root + 1) + exact false (root + 2)) ^ 2) :
    (Binary64.finite false rank).sqrt = .finite false ⟨root + 1, small⟩ := by
  have nonzero : rank.val ≠ 0 := by
    intro zero
    rw [zero, exact_zero, mul_zero] at above
    exact not_lt_of_ge (sq_nonneg _) above
  have large := large_of_root rfl nonzero below
  obtain ⟨lower, lowerSum⟩ := exists_middle (show (474 + 1) * binade ≤ root by omega)
  obtain ⟨upper, upperSum⟩ := exists_middle (show (474 + 1) * binade ≤ root + 1 by omega)
  rw [lowerSum, exact_false, ← lt_rootEnclosure_iff, ← lowerSum] at above
  rw [upperSum, exact_false, ← rootEnclosure_lt_iff, ← upperSum] at below
  have nonneg := rootEnclosure_nonneg 2 (unitsOfRank rank) 537
  rw [← abs_of_nonneg nonneg] at above below
  have rounded : magnitudeRank (rootEnclosure 2 (unitsOfRank rank) 537) = root + 1 :=
    Nat.le_antisymm (magnitudeRank_le below) (lt_magnitudeRank above)
  rw [sqrt, if_neg nonzero, if_neg Bool.false_ne_true, ofRat_of_nonneg nonneg]
  exact ofMagnitude_of_rank false rounded

end Binary64
end FunctionCalculator
