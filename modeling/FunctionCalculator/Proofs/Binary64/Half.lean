import FunctionCalculator.Binary64.Arithmetic
import FunctionCalculator.Proofs.Binary64.Square
import Mathlib.Algebra.Order.Field.Basic
/-!
Adding a half to a double before its whole part is taken. Doubles that are far from zero have no
room for the half and stay as they are.
-/

set_option autoImplicit false

namespace FunctionCalculator

namespace Binary64

theorem half_eq : half = .finite false ⟨0x3FE0000000000000, by decide⟩ := by
  decide +kernel

theorem exact_half : exact false 0x3FE0000000000000 = 1 / 2 := by
  decide +kernel

theorem add_half (negative : Bool) (rank : Fin finiteRanks) :
    finite negative rank + half = ofRat false (exact negative rank + 1 / 2) := by
  rw [half_eq, ← exact_half]
  show ofRat (negative && false) _ = _
  rw [Bool.and_false]

theorem exact_add_le {bits rank : Nat} (large : (unitBits + bits + 1) * binade ≤ rank) :
    exact false rank + 2 ^ bits ≤ exact false (rank + 1) := by
  obtain ⟨significand, exponent, scaled, rfl⟩ := exists_scaled rank
  have place : (2 : ℚ) ^ bits ≤ 2 ^ exponent / 2 ^ unitBits := by
    rw [le_div_iff₀ unit_pos, ← pow_add, Nat.add_comm bits]
    exact pow_le_pow_right₀ one_le_two (scaled.le_exponent large)
  rw [scaled.exact, scaled.exact_succ]
  linarith

theorem ofRat_of_rank {q : ℚ} {zeroNegative negative : Bool} {rank : Fin finiteRanks}
    (rounded : magnitudeRank q = rank) (sign : if negative then q < 0 else 0 < q) :
    ofRat zeroNegative q = .finite negative rank := by
  have same : (if q = 0 then zeroNegative else decide (q < 0)) = negative := by
    cases negative with
    | false =>
      have positive : 0 < q := sign
      rw [if_neg positive.ne', decide_eq_false positive.not_gt]
    | true =>
      have below : q < 0 := sign
      rw [if_neg below.ne, decide_eq_true below]
  rw [ofRat, same, ofMagnitude_of_rank negative rounded]

theorem abs_exact_add_half (negative : Bool) (rank : Nat) :
    exact false rank - 1 / 2 ≤ |exact negative rank + 1 / 2| ∧
      |exact negative rank + 1 / 2| ≤ exact false rank + 1 / 2 := by
  have lower := abs_sub_abs_le_abs_add (exact negative rank) (1 / 2)
  have upper := abs_add_le (exact negative rank) (1 / 2)
  rw [abs_exact, abs_of_pos (one_half_pos (α := ℚ))] at lower upper
  exact ⟨lower, upper⟩

theorem sign_exact_add_half (negative : Bool) {rank : Nat} (large : 1 / 2 < exact false rank) :
    if negative then exact negative rank + 1 / 2 < 0 else 0 < exact negative rank + 1 / 2 := by
  cases negative with
  | false =>
    show 0 < exact false rank + 1 / 2
    linarith
  | true =>
    show exact true rank + 1 / 2 < 0
    rw [exact_true]
    linarith

/-- Where neighbours are at least two apart, a half is too little to be seen. -/
theorem add_half_of_large (negative : Bool) {rank : Fin finiteRanks}
    (large : (unitBits + 1 + 1) * binade < rank) :
    finite negative rank + half = finite negative rank := by
  obtain ⟨previous, place⟩ : ∃ previous, rank.val = previous + 1 :=
    Nat.exists_eq_succ_of_ne_zero (Nat.ne_zero_of_lt large)
  have below := exact_add_le (show (unitBits + 1 + 1) * binade ≤ previous by omega)
  have above := exact_add_le large.le
  have nonneg := exact_nonneg previous
  rw [← place] at below
  obtain ⟨nearly, within⟩ := abs_exact_add_half negative rank
  have sign := sign_exact_add_half negative (show 1 / 2 < exact false rank by linarith)
  have upper : magnitudeRank (exact negative rank + 1 / 2) ≤ rank := by
    refine magnitudeRank_le ?_
    linarith
  have lower : previous < magnitudeRank (exact negative rank + 1 / 2) := by
    refine lt_magnitudeRank ?_
    rw [← place]
    linarith
  rw [add_half]
  exact ofRat_of_rank (Nat.le_antisymm upper (place.trans_le (Nat.succ_le_of_lt lower))) sign

theorem exact_whole (bits : Nat) :
    exact false ((unitBits + bits) * binade + binade) = 2 ^ (52 + bits) := by
  have scaled : Scaled binade (unitBits + bits) := ⟨by decide, .inr le_rfl⟩
  rw [scaled.exact, pow_add, mul_div_cancel_left₀ _ unit_pos.ne', binade_eq, Nat.cast_pow,
    Nat.cast_ofNat, ← pow_add]

theorem add_half_of_small (negative : Bool) {rank : Fin finiteRanks}
    (small : rank ≤ (unitBits + 1 + 1) * binade) :
    exact false rank ≤ 2 ^ 53 ∧
      ∃ sign place, finite negative rank + half = finite sign place ∧
        exact false place ≤ 2 ^ 54 := by
  have bounded : exact false rank ≤ 2 ^ 53 := by
    rw [← exact_whole 1, ← Nat.succ_mul]
    exact exact_strictMono.monotone small
  have within : magnitudeRank (exact negative rank + 1 / 2) ≤ (unitBits + 2) * binade + binade := by
    refine magnitudeRank_le_of_le ?_
    rw [exact_whole]
    linarith [(abs_exact_add_half negative rank).2]
  have representable : magnitudeRank (exact negative rank + 1 / 2) < finiteRanks :=
    Nat.lt_of_le_of_lt within (by decide)
  rw [add_half, ofRat, ofMagnitude_eq _ representable]
  refine ⟨bounded, _, _, rfl, ?_⟩
  rw [← exact_whole 2]
  exact exact_strictMono.monotone within

end Binary64
end FunctionCalculator
