import FunctionCalculator.Proofs.Binary64.Root
/-!
Squaring and taking the root. The double nearest to the square of a natural number that is itself a
double has that number as its root.
-/

set_option autoImplicit false

namespace FunctionCalculator.Binary64

variable {significand exponent : Nat}

theorem Scaled.exact (scaled : Scaled significand exponent) :
    exact false (exponent * binade + significand) =
      significand * (2 ^ exponent / 2 ^ unitBits) := by
  rw [exact_false, scaled.units, Nat.cast_mul, Nat.cast_pow, Nat.cast_ofNat, mul_div_assoc]

theorem Scaled.exact_succ (scaled : Scaled significand exponent) :
    Binary64.exact false (exponent * binade + significand + 1) =
      (significand + 1) * (2 ^ exponent / 2 ^ unitBits) := by
  rw [exact_false, scaled.units_succ, Nat.cast_mul, Nat.cast_pow, Nat.cast_ofNat, mul_div_assoc,
    Nat.cast_succ]

-- A natural number has no digits after the point but those of its last place.
theorem Scaled.exponent_of_natural (scaled : Scaled significand exponent) {k : Nat}
    (positive : 0 < k)
    (natural : Binary64.exact false (exponent * binade + significand) = k) :
    unitBits < 53 + exponent := by
  have units : significand * 2 ^ exponent = k * 2 ^ unitBits := by
    rw [exact_false, scaled.units, div_eq_iff unit_pos.ne'] at natural
    refine Nat.cast_injective (R := ℚ) ?_
    rw [natural, Nat.cast_mul, Nat.cast_pow, Nat.cast_ofNat]
  have reached : 2 ^ unitBits < 2 ^ (53 + exponent) := by
    calc
      2 ^ unitBits ≤ k * 2 ^ unitBits := Nat.le_mul_of_pos_left _ positive
      _ = significand * 2 ^ exponent := units.symm
      _ < 2 * binade * 2 ^ exponent := Nat.mul_lt_mul_of_pos_right scaled.within (Nat.two_pow_pos _)
      _ = 2 ^ (53 + exponent) := by
        rw [binade_eq]
        ring
  exact (Nat.pow_lt_pow_iff_right (by decide)).1 reached

theorem place_pos (exponent : Nat) : (0 : ℚ) < 2 ^ exponent / 2 ^ unitBits :=
  div_pos (pow_pos two_pos _) unit_pos

theorem place_sq {exponent : Nat} (large : unitBits ≤ 2 * exponent) :
    ((2 : ℚ) ^ exponent / 2 ^ unitBits) ^ 2 = 2 ^ (2 * exponent - unitBits) / 2 ^ unitBits := by
  have sum : 2 * exponent - unitBits + unitBits = exponent * 2 := by omega
  have split : (2 : ℚ) ^ (exponent * 2) = 2 ^ (2 * exponent - unitBits) * 2 ^ unitBits := by
    rw [← pow_add, sum]
  rw [div_pow, ← pow_mul, split, sq, mul_div_mul_right _ _ unit_pos.ne']

theorem two_mul_binade : (2 * binade : ℚ) = 2 ^ 53 := by
  rw [binade_eq]
  norm_num

-- The square of a significand has at most twice its digits, and rounding takes off half of them.
theorem square_near (scaled : Scaled significand exponent) (large : unitBits ≤ 2 * exponent) {q : ℚ}
    (square : q = (significand * (2 ^ exponent / 2 ^ unitBits)) ^ 2) :
    exact false (magnitudeRank q) ≤ q + binade * (2 ^ exponent / 2 ^ unitBits) ^ 2 ∧
      q - binade * (2 ^ exponent / 2 ^ unitBits) ^ 2 ≤ exact false (magnitudeRank q) := by
  have cell : (2 : ℚ) ^ (2 * exponent - unitBits + 53) / 2 ^ unitBits =
      2 * binade * (2 ^ exponent / 2 ^ unitBits) ^ 2 := by
    rw [place_sq large, pow_add, two_mul_binade]
    ring
  have within : (significand : ℚ) < 2 * binade := by exact_mod_cast scaled.within
  have placed := pow_pos (place_pos exponent) 2
  have magnitude : |q| = q := abs_of_nonneg (square ▸ sq_nonneg _)
  have short : |q| < 2 * binade * (2 ^ (2 * exponent - unitBits + 53) / 2 ^ unitBits) := by
    rw [magnitude, cell, square, mul_pow, ← mul_assoc]
    refine mul_lt_mul_of_pos_right ?_ placed
    rw [sq]
    exact mul_self_lt_mul_self (Nat.cast_nonneg _) within
  obtain ⟨above, below⟩ := magnitudeRank_near short
  rw [cell, magnitude] at above below
  constructor <;> linarith

theorem square_of_binade (large : unitBits ≤ 2 * exponent) {q : ℚ}
    (square : q = (binade * (2 ^ exponent / 2 ^ unitBits)) ^ 2) :
    exact false (magnitudeRank q) = q := by
  obtain ⟨rank, units⟩ :=
    exists_rank (show 1 < 2 * binade by decide) (52 * 2 + (2 * exponent - unitBits))
  have power : exact false rank = q := by
    rw [exact_false, units, square, mul_pow, place_sq large, binade_eq]
    push_cast
    ring
  have magnitude : |q| = exact false rank := by rw [power, abs_of_nonneg (square ▸ sq_nonneg _)]
  rw [magnitudeRank_of_exact magnitude, power]

section Middles

variable {m error width x : ℚ} (positive : 0 < width) (small : error ≤ m)
include positive small

theorem lt_middle_sq (near : x ≤ (m * width) ^ 2 + error * width ^ 2) :
    4 * x < (m * width + (m + 1) * width) ^ 2 := by
  have error :=
    mul_lt_mul_of_pos_right (show 4 * error < 4 * m + 1 by linarith) (pow_pos positive 2)
  calc
    4 * x < 4 * (m * width) ^ 2 + (4 * m + 1) * width ^ 2 := by linarith
    _ = (m * width + (m + 1) * width) ^ 2 := by ring

theorem middle_sq_lt (near : ((m + 1) * width) ^ 2 - error * width ^ 2 ≤ x) :
    (m * width + (m + 1) * width) ^ 2 < 4 * x := by
  have error :=
    mul_lt_mul_of_pos_right (show 4 * error < 4 * m + 3 by linarith) (pow_pos positive 2)
  calc
    (m * width + (m + 1) * width) ^ 2 =
      4 * ((m + 1) * width) ^ 2 - (4 * m + 3) * width ^ 2 := by ring
    _ < 4 * x := by linarith

end Middles

section Square

variable {root : Nat} {q : ℚ} (scaled : Scaled significand exponent)
  (large : unitBits ≤ 2 * exponent)
  (full : binade ≤ significand) (place : root + 1 = exponent * binade + significand)
  (square : q = exact false (root + 1) ^ 2)
include scaled large full place square

theorem square_lt_middle :
    4 * exact false (magnitudeRank q) < (exact false (root + 1) + exact false (root + 2)) ^ 2 := by
  rw [place, scaled.exact] at square
  rw [show root + 2 = root + 1 + 1 from rfl, place, scaled.exact, scaled.exact_succ]
  refine lt_middle_sq (place_pos exponent) (Nat.cast_le.2 full) ?_
  rw [← square]
  exact (square_near scaled large square).1

-- Below the first significand of full length the neighbour is only half as far, but then the square
-- is a power of two and is not rounded at all.
theorem middle_lt_square :
    (exact false root + exact false (root + 1)) ^ 2 < 4 * exact false (magnitudeRank q) := by
  obtain inner | first := Nat.lt_or_eq_of_le full
  · obtain ⟨previous, rfl⟩ := Nat.exists_eq_succ_of_ne_zero (Nat.ne_zero_of_lt inner)
    have before : Scaled previous exponent := ⟨by have := scaled.within; omega, .inr (by omega)⟩
    obtain rfl : exponent * binade + previous = root := by omega
    rw [place, scaled.exact] at square
    rw [before.exact, before.exact_succ]
    refine middle_sq_lt (place_pos exponent) (Nat.cast_le.2 (Nat.le_of_lt_succ inner)) ?_
    rw [← Nat.cast_succ, ← square]
    exact (square_near scaled large square).2
  · have unrounded : exact false (magnitudeRank q) = q := by
      refine square_of_binade large ?_
      rw [square, place, scaled.exact, first]
    have above := exact_strictMono (Nat.lt_add_one root)
    have nonneg := add_nonneg (exact_nonneg root) (exact_nonneg (root + 1))
    have below : exact false root + exact false (root + 1) < 2 * exact false (root + 1) := by
      linarith
    calc
      (exact false root + exact false (root + 1)) ^ 2 < (2 * exact false (root + 1)) ^ 2 :=
        pow_lt_pow_left₀ below nonneg two_ne_zero
      _ = 4 * exact false (magnitudeRank q) := by
        rw [unrounded, square]
        ring

end Square

theorem root_of_square {root k : Nat} (positive : 0 < k) (natural : exact false (root + 1) = k)
    {q : ℚ}
    (square : q = k ^ 2) :
    (exact false root + exact false (root + 1)) ^ 2 < 4 * exact false (magnitudeRank q) ∧
      4 * exact false (magnitudeRank q) <
        (exact false (root + 1) + exact false (root + 2)) ^ 2 := by
  obtain ⟨significand, exponent, scaled, place⟩ := exists_scaled (root + 1)
  have bounded := scaled.exponent_of_natural positive (place ▸ natural)
  have large : unitBits ≤ 2 * exponent ∧ exponent ≠ 0 := by
    have : unitBits = 1074 := rfl
    omega
  have full := scaled.full.resolve_left large.2
  rw [← natural] at square
  constructor
  · exact middle_lt_square scaled large.1 full place square
  · exact square_lt_middle scaled large.1 full place square

end FunctionCalculator.Binary64
