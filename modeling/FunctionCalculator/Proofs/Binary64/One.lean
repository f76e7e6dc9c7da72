import FunctionCalculator.Binary64.Power
import FunctionCalculator.Proofs.Binary64.Nearest
import FunctionCalculator.Proofs.Enclosure.Bounds
import Mathlib.Algebra.Order.Field.Basic
/-!
One to any power is one. Where the power is not computed exactly, its enclosure is so narrow that
both bounds are rounded to one.
-/

set_option autoImplicit false

namespace FunctionCalculator.Binary64

section Rounding

theorem one_eq : one = .finite false ⟨0x3FF0000000000000, by decide⟩ := by
  decide +kernel

theorem exact_around_one :
    exact false 0x3FEFFFFFFFFFFFFF = 1 - 1 / 2 ^ 53 ∧ exact false 0x3FF0000000000000 = 1 ∧
      exact false 0x3FF0000000000001 = 1 + 1 / 2 ^ 52 := by
  decide +kernel

theorem ofRat_of_near_one {q : ℚ} (near : |q - 1| < 1 / 2 ^ 54) : ofRat false q = one := by
  obtain ⟨below, whole, above⟩ := exact_around_one
  obtain ⟨lower, upper⟩ := abs_lt.1 near
  have positive : 0 ≤ q := by
    norm_num at lower
    linarith
  have rounded : magnitudeRank q = 0x3FF0000000000000 := by
    refine Nat.le_antisymm (magnitudeRank_le ?_) (lt_magnitudeRank ?_)
    · rw [whole, above, abs_of_nonneg positive]
      linarith
    · rw [below, whole, abs_of_nonneg positive]
      linarith
  rw [ofRat_of_nonneg positive, one_eq]
  exact ofMagnitude_of_rank false rounded

theorem agreed_of_near_one {bounds : ℚ × ℚ} (low : |bounds.1 - 1| < 1 / 2 ^ 54)
    (high : |bounds.2 - 1| < 1 / 2 ^ 54) : agreed? bounds = some one := by
  rw [agreed?, ofRat_of_near_one low, ofRat_of_near_one high]
  exact if_pos rfl

-- Stated for any function, so that no step evaluates the bounds.
theorem findSome?_of_first {decide? : Nat → Option Binary64} {first : Nat} {rest : List Nat}
    {x y : Binary64} (decided : decide? first = some x) :
    ((first :: rest).findSome? decide?).getD y = x := by
  rw [List.findSome?_cons, decided, Option.getD_some]

theorem nearest_of_first {bounds : Nat → ℚ × ℚ} {x : Binary64}
    (decided : agreed? (bounds 128) = some x) :
    nearest (fun precision => some (bounds precision)) = x := by
  have tried : precisions = [128, 256, 512, 1024] := by rw [precisions]
  have first : (some (bounds 128)).bind agreed? = some x := by rw [Option.bind_some, decided]
  rw [nearest, tried]
  exact findSome?_of_first first

end Rounding

section Enclosed

open Enclosure

variable {y : ℚ}

-- The first precision tried leaves this much room, whatever the denominator is.
theorem narrow (short : y.num.natAbs.log2 ≤ 4096) :
    (((128 + spread y : Nat) : Int) * (2 * |y.num|) + 1) * 2 ^ 54 < unit (128 + spread y) ∧
      16 * (2 * |y.num|) ≤ unit (128 + spread y) := by
  have split : unit (128 + spread y) = 2 ^ 128 * (2 ^ y.num.natAbs.log2 * 2 ^ y.den.log2) := by
    rw [unit, Nat.one_shiftLeft, spread, pow_add, pow_add]
    push_cast
    ring
  have num : |y.num| < 2 ^ y.num.natAbs.log2 * 2 := by
    rw [← Int.natCast_natAbs, ← pow_succ]
    exact_mod_cast Nat.lt_log2_self (n := y.num.natAbs)
  have den : (y.den.log2 : Int) < 2 ^ y.den.log2 := by
    exact_mod_cast Nat.lt_two_pow_self (n := y.den.log2)
  have positive : (0 : Int) < 2 ^ y.num.natAbs.log2 := pow_pos two_pos _
  rw [split, spread]
  push_cast
  generalize (2 : Int) ^ y.num.natAbs.log2 = first at *
  generalize (2 : Int) ^ y.den.log2 = second at *
  have terms : 128 + ((y.num.natAbs.log2 : Int) + y.den.log2) ≤ 4225 * second := by omega
  have product := mul_le_mul terms (show 2 * |y.num| ≤ 4 * first by linarith) (by positivity)
    (by omega)
  have larger : first ≤ first * second := le_mul_of_one_le_right positive.le (by omega)
  constructor <;> linarith

theorem bound_near_one {p : Nat} {n error : Int} (near : |n - unit p| ≤ error)
    (small : error * 2 ^ 54 < unit p) : |mkRat n (1 <<< p) - 1| < 1 / 2 ^ 54 := by
  have positive : (0 : ℚ) < (unit p : ℚ) := Int.cast_pos.2 (Enclosure.unit_pos p)
  have quotient : mkRat n (1 <<< p) - 1 = ((n - unit p : Int) : ℚ) / unit p := by
    rw [Rat.mkRat_eq_div, Int.cast_sub, sub_div, div_self positive.ne']
    rfl
  rw [quotient, abs_div, abs_of_pos positive, div_lt_div_iff₀ positive (by positivity), one_mul]
  exact_mod_cast (Int.mul_le_mul_of_nonneg_right near (by positivity)).trans_lt small

theorem scaledBounds_zero {p : Nat} (x : Enclosure p) : x.scaledBounds 0 = x.bounds := by
  simp [scaledBounds]

-- The logarithm of one is enclosed so near zero that no power of two is taken out of the
-- exponential.
theorem agreed_enclosedPower (short : y.num.natAbs.log2 ≤ 4096) :
    agreed? (enclosedPower (Dyadic.two 0) y 128) = some one := by
  have whole : (Dyadic.two 0).log2 = 0 := by decide
  have fraction : (Dyadic.two 0).value / (Dyadic.two 0).value = 1 := by decide +kernel
  obtain ⟨room, wide⟩ := narrow short
  unfold enclosedPower
  have large := le_ln2 (Nat.add_pos_left (by decide : 0 < 128) (spread y))
  simp only [whole, fraction, scale_zero, Enclosure.add_zero]
  generalize 128 + spread y = p at room wide large ⊢
  have exponent : Within (2 * |y.num|) ((lnFraction 1 : Enclosure p).mul (Enclosure.ofRat y)) :=
    within_lnFraction_one.mul (within_ofRat y) (Int.mul_assoc _ _ _).ge
  have size := abs_nonneg y.num
  have terms : 0 ≤ (p : Int) * (2 * |y.num|) := by positivity
  have low := exponent.low
  have twos : (2 * ((lnFraction 1 : Enclosure p).mul (Enclosure.ofRat y)).low +
      (ln2 : Enclosure p).low).fdiv (2 * (ln2 : Enclosure p).low) = 0 :=
    nearest_multiple_zero (by omega)
  rw [twos, if_neg (by decide), if_neg (by decide), scale_zero, Enclosure.sub_zero,
    scaledBounds_zero]
  obtain ⟨below, above⟩ := expSmall_near exponent (by omega)
  exact agreed_of_near_one (bound_near_one below room) (bound_near_one above room)

end Enclosed

section Powers

theorem takeRoots_one (steps : Nat) (n twos : Int) :
    ∃ left, takeRoots steps (Dyadic.two 0) n twos = (Dyadic.two 0, n, left) := by
  induction steps generalizing twos with
  | zero => exact ⟨twos, rfl⟩
  | succ steps ih =>
    have root : (Dyadic.two 0).sqrt? = some (Dyadic.two 0) := by decide
    rw [takeRoots, root]
    split
    · exact ih (twos + 1)
    · exact ⟨twos, rfl⟩

theorem pow_one_value (count : Nat) : ((Dyadic.two 0).pow count).value = 1 := by
  have power : (Dyadic.two 0).pow count = Dyadic.two 0 := by
    rw [Dyadic.pow, Dyadic.two, Nat.pow_eq, Nat.one_pow, Int.zero_mul]
  rw [power]
  decide +kernel

theorem exactPower_one {n twos : Int} {q : ℚ} (found : exactPower? (Dyadic.two 0) n twos = some q) :
    q = 1 := by
  obtain ⟨left, taken⟩ := takeRoots_one 64 n twos
  rw [exactPower?, taken] at found
  simp only [pow_one_value, div_one, ite_self] at found
  grind

theorem powerOfPositive_one {n twos : Int}
    (short : (Dyadic.mk n.natAbs twos).value.num.natAbs.log2 ≤ 4096) :
    powerOfPositive (Dyadic.two 0) n twos = one := by
  have logarithm : ((Dyadic.two 0).log2 : ℚ) = 0 := by
    rw [show (Dyadic.two 0).log2 = 0 from rfl, Int.cast_zero]
  have above : ¬ (1100 : ℚ) < 0 := by norm_num
  have below : ¬ (0 : ℚ) < -1200 := by norm_num
  unfold powerOfPositive
  simp only [logarithm, mul_zero, above, below, false_and, if_false]
  split
  · next found =>
    rw [exactPower_one found, one]
  · have signed :
        ((Dyadic.mk n.natAbs twos).value * (if n < 0 then -1 else 1)).num.natAbs.log2 ≤ 4096 := by
      split <;> simpa using short
    exact nearest_of_first (agreed_enclosedPower signed)

-- Scaling back what has been scaled down gives no more than there was.
theorem num_value_ofUnits_le (units : Nat) : (Dyadic.ofUnits units).value.num.natAbs ≤ units := by
  unfold Dyadic.ofUnits
  generalize (units - (units &&& (units - 1))).log2 = zeros
  dsimp only [Dyadic.value]
  split
  · next whole =>
    rw [Rat.num_natCast, Int.natAbs_natCast, Nat.shiftLeft_eq, Nat.shiftRight_eq_div_pow]
    calc
      units / 2 ^ zeros * 2 ^ ((zeros : Int) - unitBits).toNat ≤ units / 2 ^ zeros * 2 ^ zeros :=
        Nat.mul_le_mul_left _ (Nat.pow_le_pow_right (by decide) (by omega))
      _ ≤ units := Nat.div_mul_le_self units _
  · rw [Rat.num_mkRat, Nat.one_shiftLeft, if_neg (Nat.two_pow_pos _).ne', ← Int.natCast_ediv,
      Int.natAbs_natCast, Nat.shiftRight_eq_div_pow]
    exact (Nat.div_le_self _ _).trans (Nat.div_le_self _ _)

theorem log2_le_of_lt {n k : Nat} (bounded : n < 2 ^ (k + 1)) : n.log2 ≤ k := by
  obtain rfl | positive := Nat.eq_zero_or_pos n
  · exact Nat.zero_le k
  · exact Nat.le_of_lt_succ ((Nat.log2_lt positive.ne').2 bounded)

theorem unitsOfRank_limit : unitsOfRank finiteRanks < 2 ^ (4096 + 1) := by
  decide +kernel

theorem ofUnits_one : Dyadic.ofUnits (unitsOfRank 0x3FF0000000000000) = Dyadic.two 0 := by
  decide +kernel

theorem powerOfPositive_one_of_rank (exponent : Fin finiteRanks) {n : Int}
    (digits : n.natAbs = (Dyadic.ofUnits (unitsOfRank exponent)).odd) :
    powerOfPositive (Dyadic.two 0) n (Dyadic.ofUnits (unitsOfRank exponent)).exponent = one := by
  refine powerOfPositive_one ?_
  rw [digits]
  exact log2_le_of_lt <|
    calc
      _ ≤ unitsOfRank exponent := num_value_ofUnits_le _
      _ < unitsOfRank finiteRanks := unitsOfRank_strictMono exponent.isLt
      _ < 2 ^ (4096 + 1) := unitsOfRank_limit

end Powers

end FunctionCalculator.Binary64
