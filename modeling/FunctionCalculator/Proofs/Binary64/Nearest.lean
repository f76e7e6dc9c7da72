import FunctionCalculator.Proofs.Binary64.Rank
import Mathlib.Algebra.Order.Field.Rat
import Mathlib.Algebra.Order.Ring.Abs
import Mathlib.Tactic.Linarith
/-!
Rounding a magnitude: what lies below the middle between two neighbours is not rounded beyond the
lower one, and what lies above it is not rounded below the upper one.
-/

set_option autoImplicit false

namespace FunctionCalculator.Binary64

section Units

theorem binade_eq : binade = 2 ^ 52 := rfl

variable {n d rank significand exponent : Nat}

theorem roundHalfEven_cases (n d : Nat) :
    (roundHalfEven n d = n / d ∧ 2 * (n % d) ≤ d) ∨
      (roundHalfEven n d = n / d + 1 ∧ d ≤ 2 * (n % d)) := by
  unfold roundHalfEven
  grind

theorem roundHalfEven_near (positive : 0 < d) (n : Nat) :
    2 * (roundHalfEven n d * d) ≤ 2 * n + d ∧ 2 * n ≤ 2 * (roundHalfEven n d * d) + d := by
  have split := Nat.div_add_mod' n d
  have rest := Nat.mod_lt n positive
  obtain ⟨down, small⟩ | ⟨up, large⟩ := roundHalfEven_cases n d
  · rw [down]
    generalize n / d * d = whole at split ⊢
    omega
  · rw [up, Nat.add_mul, Nat.one_mul]
    generalize n / d * d = whole at split ⊢
    omega

/-- A fraction and its rounding to whole cells: the cells are as wide as the exponent says, and the
error is at most half of one. -/
structure Rounding (n d significand exponent : Nat) : Prop where
  short : n < 2 * binade * (d * 2 ^ exponent)
  full : exponent = 0 ∨ binade * (d * 2 ^ exponent) ≤ n
  above : 2 * (significand * (d * 2 ^ exponent)) ≤ 2 * n + d * 2 ^ exponent
  below : 2 * n ≤ 2 * (significand * (d * 2 ^ exponent)) + d * 2 ^ exponent

theorem exists_rounding (positive : 0 < d) (n : Nat) :
    ∃ significand exponent, Rounding n d significand exponent ∧
      nearestRank n d = exponent * binade + significand := by
  have shifted : 0 < d <<< ((n / d).log2 - 52) := Nat.shiftLeft_pos_iff.2 positive
  have near := roundHalfEven_near shifted n
  refine ⟨_, _, ⟨?_, ?_, ?_, ?_⟩, Nat.add_comm _ _⟩
  · calc
      n < (n / d + 1) * d := Nat.mul_comm d _ ▸ Nat.lt_mul_div_succ n positive
      _ ≤ 2 ^ (53 + ((n / d).log2 - 52)) * d := by
        refine Nat.mul_le_mul_right d (Nat.lt_log2_self.trans_le ?_)
        exact Nat.pow_le_pow_right (by decide) (by omega)
      _ = 2 * binade * (d * 2 ^ ((n / d).log2 - 52)) := by
        rw [binade_eq]
        ring
  · obtain small | large := Nat.le_total (n / d).log2 52
    · exact .inl (Nat.sub_eq_zero_of_le small)
    · refine .inr ?_
      have nonzero : n / d ≠ 0 := by
        intro zero
        rw [zero] at large
        exact absurd large (by decide)
      calc
        binade * (d * 2 ^ ((n / d).log2 - 52)) = 2 ^ (52 + ((n / d).log2 - 52)) * d := by
          rw [binade_eq]
          ring
        _ = 2 ^ (n / d).log2 * d := by rw [Nat.add_sub_cancel' large]
        _ ≤ n / d * d := Nat.mul_le_mul_right d (Nat.log2_self_le nonzero)
        _ ≤ n := Nat.div_mul_le_self n d
  · rw [← Nat.shiftLeft_eq]
    exact near.1
  · rw [← Nat.shiftLeft_eq]
    exact near.2

theorem Rounding.exponent_le (rounding : Rounding n d significand exponent) {cell : Nat}
    (short : n < 2 * binade * (d * 2 ^ cell)) : exponent ≤ cell := by
  obtain zero | full := rounding.full
  · exact zero ▸ Nat.zero_le cell
  · have scaled : binade * d * 2 ^ exponent < binade * d * 2 ^ (cell + 1) := by
      rw [Nat.pow_succ]
      linarith
    have power := Nat.lt_of_mul_lt_mul_left scaled
    exact Nat.le_of_lt_succ ((Nat.pow_lt_pow_iff_right (by decide)).1 power)

section Rounding

variable (positive : 0 < d) (rounding : Rounding n d significand exponent)
include positive rounding

theorem Rounding.within : significand ≤ 2 * binade := by
  have cell : 0 < d * 2 ^ exponent := Nat.mul_pos positive (Nat.two_pow_pos exponent)
  have reached : 2 * significand * (d * 2 ^ exponent) < (4 * binade + 1) * (d * 2 ^ exponent) := by
    have := rounding.above
    have := rounding.short
    linarith
  have := Nat.lt_of_mul_lt_mul_right reached
  omega

theorem Rounding.normal : exponent = 0 ∨ binade ≤ significand := by
  refine rounding.full.imp_right fun full => ?_
  have cell : 0 < d * 2 ^ exponent := Nat.mul_pos positive (Nat.two_pow_pos exponent)
  have reached : 2 * binade * (d * 2 ^ exponent) ≤ (2 * significand + 1) * (d * 2 ^ exponent) := by
    have := rounding.below
    linarith
  have := Nat.le_of_mul_le_mul_right reached cell
  omega

theorem Rounding.units :
    unitsOfRank (exponent * binade + significand) = significand * 2 ^ exponent :=
  unitsOfRank_add (rounding.within positive) (rounding.normal positive)

-- Above the last significand of its length the cells are twice as wide.
theorem Rounding.le_middle :
    2 * n ≤ (unitsOfRank (exponent * binade + significand) +
      unitsOfRank (exponent * binade + significand + 1)) * d := by
  have next : significand * 2 ^ exponent + 2 ^ exponent ≤
      unitsOfRank (exponent * binade + significand + 1) := by
    obtain inside | last := Nat.lt_or_eq_of_le (rounding.within positive)
    · rw [Scaled.units_succ ⟨inside, rounding.normal positive⟩, Nat.succ_mul]
    · have scaled : Scaled binade (exponent + 1) := ⟨by decide, .inr le_rfl⟩
      have place : exponent * binade + significand = (exponent + 1) * binade + binade := by
        rw [last]
        ring
      rw [place, scaled.units_succ, last, Nat.pow_succ]
      linarith [Nat.two_pow_pos exponent]
  rw [rounding.units positive]
  have := Nat.mul_le_mul_right d next
  have := rounding.below
  linarith

-- Below the first significand of its length the cells are half as wide, and nothing is rounded up
-- to it from there.
theorem Rounding.middle_le (rounded : exponent * binade + significand = rank + 1) :
    (unitsOfRank rank + unitsOfRank (rank + 1)) * d ≤ 2 * n := by
  by_cases inner : exponent = 0 ∨ binade < significand
  · obtain ⟨previous, rfl⟩ : ∃ previous, significand = previous + 1 :=
      Nat.exists_eq_succ_of_ne_zero (by grind)
    have within := rounding.within positive
    have scaled : Scaled previous exponent := ⟨by omega, inner.imp_right Nat.le_of_lt_succ⟩
    obtain rfl : exponent * binade + previous = rank := by omega
    rw [scaled.units, scaled.units_succ]
    have := rounding.above
    linarith
  · have normal := rounding.normal positive
    have full := rounding.full
    obtain rfl : significand = binade := by grind
    have below := unitsOfRank_strictMono (Nat.lt_add_one rank)
    have units := rounding.units positive
    rw [rounded] at units
    have covered : binade * (d * 2 ^ exponent) ≤ n := full.resolve_left (by grind)
    calc
      (unitsOfRank rank + unitsOfRank (rank + 1)) * d ≤ 2 * unitsOfRank (rank + 1) * d :=
        Nat.mul_le_mul_right d (by omega)
      _ = 2 * (binade * (d * 2 ^ exponent)) := by
        rw [units]
        ring
      _ ≤ 2 * n := Nat.mul_le_mul_left 2 covered

end Rounding

theorem nearestRank_near {cell : Nat} (positive : 0 < d) (short : n < 2 * binade * (d * 2 ^ cell)) :
    2 * (unitsOfRank (nearestRank n d) * d) ≤ 2 * n + d * 2 ^ cell ∧
      2 * n ≤ 2 * (unitsOfRank (nearestRank n d) * d) + d * 2 ^ cell := by
  obtain ⟨significand, exponent, rounding, rounded⟩ := exists_rounding positive n
  have width : d * 2 ^ exponent ≤ d * 2 ^ cell :=
    Nat.mul_le_mul_left d (Nat.pow_le_pow_right (by decide) (rounding.exponent_le short))
  rw [rounded, rounding.units positive]
  have := rounding.above
  have := rounding.below
  constructor <;> linarith

theorem middle_le_of_lt (positive : 0 < d) (beyond : rank < nearestRank n d) :
    (unitsOfRank rank + unitsOfRank (rank + 1)) * d ≤ 2 * n := by
  obtain ⟨significand, exponent, rounding, rounded⟩ := exists_rounding positive n
  obtain ⟨last, next⟩ : ∃ last, nearestRank n d = last + 1 :=
    Nat.exists_eq_succ_of_ne_zero (Nat.ne_zero_of_lt beyond)
  have within : rank ≤ last := by omega
  have ordered := unitsOfRank_strictMono.monotone within
  have following := unitsOfRank_strictMono.monotone (Nat.succ_le_succ within)
  calc
    (unitsOfRank rank + unitsOfRank (rank + 1)) * d ≤
      (unitsOfRank last + unitsOfRank (last + 1)) * d :=
      Nat.mul_le_mul_right d (Nat.add_le_add ordered following)
    _ ≤ 2 * n := rounding.middle_le positive (rounded.symm.trans next)

theorem le_middle_of_le (positive : 0 < d) (within : nearestRank n d ≤ rank) :
    2 * n ≤ (unitsOfRank rank + unitsOfRank (rank + 1)) * d := by
  obtain ⟨significand, exponent, rounding, rounded⟩ := exists_rounding positive n
  rw [rounded] at within
  have ordered := unitsOfRank_strictMono.monotone within
  have following := unitsOfRank_strictMono.monotone (Nat.succ_le_succ within)
  exact (rounding.le_middle positive).trans
    (Nat.mul_le_mul_right d (Nat.add_le_add ordered following))

end Units

section Rationals

variable {q : ℚ} {rank : Nat}

theorem unit_pos : (0 : ℚ) < 2 ^ unitBits := pow_pos two_pos _

theorem exact_false (rank : Nat) : exact false rank = unitsOfRank rank / 2 ^ unitBits := by
  rw [exact, if_neg Bool.false_ne_true, Rat.mkRat_eq_div, Nat.one_shiftLeft, Int.cast_natCast,
    Nat.cast_pow, Nat.cast_ofNat]

theorem exact_true (rank : Nat) : exact true rank = -exact false rank := by
  rw [exact, if_pos rfl, exact, if_neg Bool.false_ne_true]

theorem exact_strictMono : StrictMono (exact false) := by
  intro rank other less
  rw [exact_false, exact_false]
  exact div_lt_div_of_pos_right (Nat.cast_lt.2 (unitsOfRank_strictMono less)) unit_pos

theorem exact_zero : exact false 0 = 0 := by
  rw [exact_false, show unitsOfRank 0 = 0 from rfl, Nat.cast_zero, zero_div]

theorem exact_nonneg (rank : Nat) : 0 ≤ exact false rank := by
  rw [← exact_zero]
  exact exact_strictMono.monotone (Nat.zero_le rank)

theorem abs_exact (negative : Bool) (rank : Nat) : |exact negative rank| = exact false rank := by
  cases negative with
  | false => exact abs_of_nonneg (exact_nonneg rank)
  | true => rw [exact_true, abs_neg, abs_of_nonneg (exact_nonneg rank)]

def magnitudeRank (q : ℚ) : Nat := nearestRank (q.num.natAbs <<< unitBits) q.den

theorem scaled_num (q : ℚ) :
    ((q.num.natAbs <<< unitBits : Nat) : ℚ) = |q| * 2 ^ unitBits * q.den := by
  have magnitude : (q.num.natAbs : ℚ) = |q| * q.den := by
    rw [Nat.cast_natAbs, Int.cast_abs, ← Rat.mul_den_eq_num, abs_mul, Nat.abs_cast]
  rw [Nat.shiftLeft_eq, Nat.cast_mul, magnitude, Nat.cast_pow, Nat.cast_ofNat]
  ring

theorem exact_add_exact (rank other : Nat) :
    exact false rank + exact false other =
      (unitsOfRank rank + unitsOfRank other : Nat) / 2 ^ unitBits := by
  rw [exact_false, exact_false, ← add_div, Nat.cast_add]

theorem den_pos (q : ℚ) : (0 : ℚ) < q.den := Nat.cast_pos.2 q.den_pos

theorem le_scaled_num_iff {units : Nat} :
    units * q.den ≤ 2 * (q.num.natAbs <<< unitBits) ↔ (units : ℚ) / 2 ^ unitBits ≤ 2 * |q| := by
  rw [← Nat.cast_le (α := ℚ), Nat.cast_mul, Nat.cast_mul, scaled_num, Nat.cast_ofNat, ← mul_assoc,
    mul_le_mul_iff_left₀ (den_pos q), div_le_iff₀ unit_pos, mul_assoc]

theorem scaled_num_le_iff {units : Nat} :
    2 * (q.num.natAbs <<< unitBits) ≤ units * q.den ↔ 2 * |q| ≤ (units : ℚ) / 2 ^ unitBits := by
  rw [← Nat.cast_le (α := ℚ), Nat.cast_mul, Nat.cast_mul, scaled_num, Nat.cast_ofNat, ← mul_assoc,
    mul_le_mul_iff_left₀ (den_pos q), le_div_iff₀ unit_pos, mul_assoc]

theorem magnitudeRank_le (below : 2 * |q| < exact false rank + exact false (rank + 1)) :
    magnitudeRank q ≤ rank := by
  by_contra beyond
  have middle := middle_le_of_lt q.den_pos (Nat.lt_of_not_le beyond)
  rw [le_scaled_num_iff, ← exact_add_exact] at middle
  exact not_le_of_gt below middle

theorem lt_magnitudeRank (above : exact false rank + exact false (rank + 1) < 2 * |q|) :
    rank < magnitudeRank q := by
  by_contra within
  have middle := le_middle_of_le q.den_pos (Nat.le_of_not_lt within)
  rw [scaled_num_le_iff, ← exact_add_exact] at middle
  exact not_le_of_gt above middle

theorem magnitudeRank_near {cell : Nat} (short : |q| < 2 * binade * (2 ^ cell / 2 ^ unitBits)) :
    2 * exact false (magnitudeRank q) ≤ 2 * |q| + 2 ^ cell / 2 ^ unitBits ∧
      2 * |q| ≤ 2 * exact false (magnitudeRank q) + 2 ^ cell / 2 ^ unitBits := by
  have positive := den_pos q
  have bounded : q.num.natAbs <<< unitBits < 2 * binade * (q.den * 2 ^ cell) := by
    rw [← mul_div_assoc, lt_div_iff₀ unit_pos] at short
    rw [← Nat.cast_lt (α := ℚ), scaled_num]
    push_cast
    linarith [mul_lt_mul_of_pos_right short positive]
  obtain ⟨above, below⟩ := nearestRank_near q.den_pos bounded
  have units :
      (unitsOfRank (magnitudeRank q) : ℚ) = exact false (magnitudeRank q) * 2 ^ unitBits := by
    rw [exact_false, div_mul_cancel₀ _ unit_pos.ne']
  rw [← magnitudeRank, ← Nat.cast_le (α := ℚ)] at above below
  push_cast [scaled_num, units] at above below
  rw [← sub_le_iff_le_add', ← sub_le_iff_le_add', le_div_iff₀ unit_pos, le_div_iff₀ unit_pos]
  constructor <;> refine le_of_mul_le_mul_right ?_ positive <;> linarith

theorem magnitudeRank_le_of_le (bounded : |q| ≤ exact false rank) : magnitudeRank q ≤ rank := by
  refine magnitudeRank_le ?_
  linarith [exact_strictMono (Nat.lt_add_one rank)]

theorem le_magnitudeRank_of_le (reached : exact false rank ≤ |q|) : rank ≤ magnitudeRank q := by
  cases rank with
  | zero => exact Nat.zero_le _
  | succ rank =>
    refine lt_magnitudeRank ?_
    linarith [exact_strictMono (Nat.lt_add_one rank)]

theorem magnitudeRank_of_exact (same : |q| = exact false rank) : magnitudeRank q = rank :=
  Nat.le_antisymm (magnitudeRank_le_of_le same.le) (le_magnitudeRank_of_le same.ge)

theorem ofMagnitude_eq (negative : Bool) (small : magnitudeRank q < finiteRanks) :
    ofMagnitude negative q = .finite negative ⟨magnitudeRank q, small⟩ := by
  unfold ofMagnitude
  exact dif_pos small

theorem ofMagnitude_of_rank (negative : Bool) {rank : Fin finiteRanks}
    (rounded : magnitudeRank q = rank) : ofMagnitude negative q = .finite negative rank := by
  rw [ofMagnitude_eq negative (rounded.trans_lt rank.isLt)]
  simp only [rounded]

theorem ofMagnitude_of_large (negative : Bool) (large : finiteRanks ≤ magnitudeRank q) :
    ofMagnitude negative q = .infinity negative := by
  unfold ofMagnitude
  exact dif_neg (Nat.not_lt.2 large)

theorem ofRat_of_nonneg (nonneg : 0 ≤ q) : ofRat false q = ofMagnitude false q := by
  have sign : (if q = 0 then false else decide (q < 0)) = false := by
    split
    · rfl
    · exact decide_eq_false (not_lt_of_ge nonneg)
  rw [ofRat, sign]

end Rationals
end FunctionCalculator.Binary64
