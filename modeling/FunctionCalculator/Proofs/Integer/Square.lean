import FunctionCalculator.Binary64.Root
import FunctionCalculator.Proofs.Binary64.Overflow
import FunctionCalculator.Proofs.Binary64.Square
/-!
Which perfect squares are recognised through the double root: those of numbers that are doubles
themselves.
-/

set_option autoImplicit false

namespace FunctionCalculator

namespace Binary64

theorem ofInt_eq {n : Nat} {x : Binary64} (found : ofInt? n = some x) :
    ∃ rank : Fin finiteRanks, magnitudeRank (n : ℚ) = rank ∧ x = .finite false rank := by
  have nonneg : (0 : ℚ) ≤ ((n : Int) : ℚ) := by simp
  unfold ofInt? at found
  rw [ofRat_of_nonneg nonneg, Int.cast_natCast] at found
  by_cases small : magnitudeRank (n : ℚ) < finiteRanks
  · rw [ofMagnitude_eq false small] at found
    exact ⟨⟨_, small⟩, rfl, (Option.some.inj found).symm⟩
  · rw [ofMagnitude_of_large false (Nat.not_lt.1 small)] at found
    cases found

/-- A number of at most 53 binary digits from its first one to its last one that is set. -/
def FitsSignificand (k : Nat) : Prop :=
  ∃ significand exponent : Nat, significand < 2 ^ 53 ∧ k = significand * 2 ^ exponent

theorem exists_exact {k : Nat} (fits : FitsSignificand k) : ∃ rank, exact false rank = k := by
  obtain ⟨significand, exponent, within, rfl⟩ := fits
  obtain ⟨rank, units⟩ :=
    exists_rank (show significand < 2 * binade from within) (exponent + unitBits)
  refine ⟨rank, ?_⟩
  rw [exact_false, units, Nat.pow_add, ← Nat.mul_assoc, div_eq_iff unit_pos.ne', Nat.cast_mul,
    Nat.cast_pow 2 unitBits, Nat.cast_ofNat]

theorem fits_of_lt {k : Nat} (small : k < 2 ^ 53) : FitsSignificand k :=
  ⟨k, 0, small, by rw [Nat.pow_zero, Nat.mul_one]⟩

theorem fits_of_mul_self_lt {k : Nat} (small : k * k < 2 ^ 53 * 2 ^ 53) : FitsSignificand k :=
  fits_of_lt (Nat.mul_self_lt_mul_self_iff.1 small)

-- A double is a whole number when its last place is, and otherwise at most its significand.
theorem exact_natural_or_small (rank : Nat) :
    (∃ k, FitsSignificand k ∧ exact false rank = k) ∨
      ∃ significand : Nat, significand < 2 ^ 53 ∧ exact false rank ≤ significand := by
  obtain ⟨significand, exponent, scaled, rfl⟩ := exists_scaled rank
  rw [scaled.exact]
  obtain whole | fraction := Nat.le_total unitBits exponent
  · refine .inl ⟨significand * 2 ^ (exponent - unitBits), ⟨_, _, scaled.within, rfl⟩, ?_⟩
    have split : (2 : ℚ) ^ exponent = 2 ^ (exponent - unitBits) * 2 ^ unitBits := by
      rw [← pow_add, Nat.sub_add_cancel whole]
    rw [split, mul_div_cancel_right₀ _ unit_pos.ne', Nat.cast_mul, Nat.cast_pow, Nat.cast_ofNat]
  · refine .inr ⟨significand, scaled.within, mul_le_of_le_one_right (Nat.cast_nonneg _) ?_⟩
    rw [div_le_one₀ unit_pos]
    exact pow_le_pow_right₀ one_le_two fraction

theorem floor_fits (negative : Bool) (rank : Nat) :
    FitsSignificand (exact negative rank).floor.natAbs := by
  obtain ⟨k, fits, natural⟩ | ⟨significand, short, bounded⟩ := exact_natural_or_small rank
  · have floor : (exact negative rank).floor = if negative then -(k : Int) else k := by
      cases negative with
      | false => rw [natural, ← Int.cast_natCast, Rat.floor_intCast, if_neg Bool.false_ne_true]
      | true =>
        rw [exact_true, natural, ← Int.cast_natCast, ← Int.cast_neg, Rat.floor_intCast, if_pos rfl]
    have magnitude : (exact negative rank).floor.natAbs = k := by
      rw [floor]
      split <;> omega
    rwa [magnitude]
  · rw [← abs_exact negative] at bounded
    obtain ⟨lower, upper⟩ := abs_le.1 bounded
    have above : -(significand : Int) ≤ (exact negative rank).floor := by
      rw [Rat.le_floor_iff]
      push_cast
      exact lower
    have below : (exact negative rank).floor ≤ significand := by
      exact_mod_cast (Rat.floor_le _).trans upper
    refine fits_of_lt (Nat.lt_of_le_of_lt ?_ short)
    omega

theorem fits_of_floor (x : Binary64) : FitsSignificand (x.floor?.getD 0).natAbs := by
  have zero : FitsSignificand 0 := fits_of_lt (by decide)
  cases x with
  | nan | infinity => exact zero
  | finite negative rank => exact floor_fits negative rank

theorem floor_of_exact {rank : Fin finiteRanks} {k : Nat} (natural : exact false rank = k) :
    (Binary64.finite false rank).floor? = some (k : Int) := by
  rw [floor?, value?, natural, Option.map_some, ← Int.cast_natCast, Rat.floor_intCast]

theorem floor_sqrt_square {k : Nat} (fits : FitsSignificand k) {rank : Fin finiteRanks}
    (nearest : magnitudeRank ((k * k : Nat) : ℚ) = rank) :
    (Binary64.finite false rank).sqrt.floor? = some (k : Int) := by
  obtain ⟨place, natural⟩ := exists_exact fits
  -- Zero has no neighbour below it, so its root is no matter of rounding.
  cases place with
  | zero =>
    rw [exact_zero] at natural
    obtain rfl : 0 = k := Nat.cast_injective natural
    have zero : magnitudeRank ((0 * 0 : Nat) : ℚ) = 0 :=
      magnitudeRank_of_exact (by simp [exact_zero])
    have first : rank.val = 0 := nearest.symm.trans zero
    rw [sqrt, if_pos first]
    refine floor_of_exact ?_
    rw [first, exact_zero, Nat.cast_zero]
  | succ root =>
    have positive : 0 < k := by
      have above := exact_strictMono (Nat.succ_pos root)
      rw [natural, exact_zero] at above
      exact Nat.cast_pos.1 above
    have within : root + 1 < finiteRanks := by
      refine Nat.lt_of_le_of_lt ?_ rank.isLt
      rw [← nearest]
      refine le_magnitudeRank_of_le ?_
      rw [natural, Nat.abs_cast]
      exact Nat.cast_le.2 (Nat.le_mul_self k)
    have square : ((k * k : Nat) : ℚ) = (k : ℚ) ^ 2 := by rw [Nat.cast_mul, sq]
    obtain ⟨above, below⟩ := root_of_square positive natural square
    rw [nearest] at above below
    rw [sqrt_eq within above below]
    exact floor_of_exact natural

end Binary64

namespace Integer

theorem isPerfectSquare_natCast {n : Nat} (small : n < Binary64.integerLimit) :
    ∃ square, isPerfectSquare n = .ok square ∧
      (square = true ↔ ∃ k, k * k = n ∧ Binary64.FitsSignificand k) := by
  have converts : Binary64.ofInt? n ≠ none :=
    mt (Binary64.ofInt_natCast_eq_none_iff n).1 (Nat.not_le.2 small)
  obtain ⟨x, found⟩ := Option.ne_none_iff_exists'.1 converts
  have computed :
      isPerfectSquare n = .ok (x.sqrt.floor?.getD 0 * x.sqrt.floor?.getD 0 = (n : Int)) := by
    rw [isPerfectSquare, if_neg (by omega), found]
  refine ⟨_, computed, ?_⟩
  rw [decide_eq_true_iff]
  constructor
  · intro square
    refine ⟨_, ?_, Binary64.fits_of_floor x.sqrt⟩
    exact_mod_cast Int.natAbs_mul_self.trans square
  · rintro ⟨k, rfl, fits⟩
    obtain ⟨rank, nearest, rfl⟩ := Binary64.ofInt_eq found
    rw [Binary64.floor_sqrt_square fits nearest, Option.getD_some]
    exact (Nat.cast_mul k k).symm

theorem exists_natural_root {n : Int} :
    (∃ k : Int, k * k = n) ↔ ∃ k : Nat, ((k * k : Nat) : Int) = n := by
  constructor
  · rintro ⟨k, rfl⟩
    exact ⟨k.natAbs, Int.natAbs_mul_self⟩
  · rintro ⟨k, rfl⟩
    exact ⟨k, (Nat.cast_mul k k).symm⟩

theorem isPerfectSquare_correct_iff {n : Int} (small : n < Binary64.integerLimit) :
    ∃ square, isPerfectSquare n = .ok square ∧
      ((square = true ↔ ∃ k : Int, k * k = n) ↔
        ∀ k : Nat, ((k * k : Nat) : Int) = n → Binary64.FitsSignificand k) := by
  rw [exists_natural_root]
  by_cases negative : n < 0
  · have rootless (k : Nat) : ((k * k : Nat) : Int) ≠ n := by omega
    refine ⟨false, if_pos negative, iff_of_true (iff_of_false Bool.false_ne_true ?_) ?_⟩
    · exact fun ⟨k, root⟩ => rootless k root
    · exact fun k root => absurd root (rootless k)
  · obtain ⟨m, rfl⟩ := Int.eq_ofNat_of_zero_le (Int.not_lt.1 negative)
    obtain ⟨square, computed, recognised⟩ := isPerfectSquare_natCast (Int.ofNat_lt.1 small)
    refine ⟨square, computed, ?_⟩
    simp only [recognised, Int.ofNat_inj]
    constructor
    · rintro correct k rfl
      obtain ⟨other, same, fits⟩ := correct.2 ⟨k, rfl⟩
      exact Nat.mul_self_inj.1 same ▸ fits
    · intro fits
      constructor
      · exact fun ⟨k, root, _⟩ => ⟨k, root⟩
      · exact fun ⟨k, root⟩ => ⟨k, root, fits k root⟩

end Integer
end FunctionCalculator
