import FunctionCalculator.Enclosure.Elementary
import Mathlib.Algebra.Order.Ring.Abs
import Mathlib.Algebra.Order.Ring.Int
import Mathlib.Tactic.Linarith
import Mathlib.Tactic.Ring
/-!
How far the bounds of an enclosure can be from zero, through the operations and along a series. The
exponential of a number near zero is enclosed near one.
-/

set_option autoImplicit false

namespace FunctionCalculator.Enclosure

abbrev unit (p : Nat) : Int := (1 <<< p : Nat)

theorem unit_pos (p : Nat) : 0 < unit p := by
  rw [unit, Nat.one_shiftLeft]
  exact Int.natCast_pos.2 (Nat.two_pow_pos p)

structure Within {p : Nat} (size : Int) (x : Enclosure p) : Prop where
  low : |x.low| ≤ size
  high : |x.high| ≤ size

structure Nonneg {p : Nat} (x : Enclosure p) : Prop where
  low : 0 ≤ x.low
  high : 0 ≤ x.high

variable {p : Nat} {a b size : Int} {x y : Enclosure p}

section Quotients

variable {n d : Int}

theorem abs_fdiv_le (positive : 0 < d) (bounded : |n| ≤ size * d) : |n.fdiv d| ≤ size := by
  obtain ⟨lower, upper⟩ := abs_le.1 bounded
  rw [Int.fdiv_eq_ediv_of_nonneg n positive.le, abs_le, Int.le_ediv_iff_mul_le positive]
  exact ⟨by linarith, Int.ediv_le_of_le_mul positive upper⟩

theorem abs_ceilDiv_le (positive : 0 < d) (bounded : |n| ≤ size * d) : |ceilDiv n d| ≤ size := by
  rw [ceilDiv, abs_neg]
  exact abs_fdiv_le positive (by rwa [abs_neg])

theorem fdiv_nonneg (positive : 0 < d) (nonneg : 0 ≤ n) : 0 ≤ n.fdiv d :=
  Int.fdiv_nonneg nonneg positive.le

theorem ceilDiv_nonneg (positive : 0 < d) (nonneg : 0 ≤ n) : 0 ≤ ceilDiv n d := by
  rw [ceilDiv, Int.fdiv_eq_ediv_of_nonneg _ positive.le, Int.neg_nonneg]
  exact Int.ediv_le_of_le_mul positive (by linarith)

theorem nearest_multiple_zero (small : 2 * |n| < d) : (2 * n + d).fdiv (2 * d) = 0 := by
  have nonneg := abs_nonneg n
  obtain ⟨lower, upper⟩ := abs_le.1 (le_refl |n|)
  rw [Int.fdiv_eq_ediv_of_nonneg _ (by omega)]
  exact Int.ediv_eq_zero_of_lt (by omega) (by omega)

end Quotients

section Operations

theorem Within.scale (within : Within a x) (n : Int) : Within (|n| * a) (scale n x) := by
  have low := mul_le_mul_of_nonneg_left within.low (abs_nonneg n)
  have high := mul_le_mul_of_nonneg_left within.high (abs_nonneg n)
  rw [← abs_mul] at low high
  unfold Enclosure.scale
  split
  · exact ⟨low, high⟩
  · exact ⟨high, low⟩

theorem Within.shrink (within : Within a x) {n : Nat} (positive : 0 < n) :
    Within a (x.shrink n) := by
  have divisor : (1 : Int) ≤ n := Int.ofNat_le.2 positive
  have grown {bound : Int} (small : |bound| ≤ a) : |bound| ≤ a * n :=
    small.trans (le_mul_of_one_le_right ((abs_nonneg _).trans small) divisor)
  exact ⟨abs_fdiv_le (by omega) (grown within.low), abs_ceilDiv_le (by omega) (grown within.high)⟩

theorem Within.mul (first : Within a x) (second : Within b y) (small : a * b ≤ size * unit p) :
    Within size (x.mul y) := by
  have product {c d : Int} (left : |c| ≤ a) (right : |d| ≤ b) : |c * d| ≤ size * unit p := by
    rw [abs_mul]
    exact (mul_le_mul left right (abs_nonneg d) ((abs_nonneg c).trans left)).trans small
  have lowest {c d : Int} (left : |c| ≤ size * unit p) (right : |d| ≤ size * unit p) :
      |min c d| ≤ size * unit p := (abs_min_le_max_abs_abs).trans (max_le left right)
  have highest {c d : Int} (left : |c| ≤ size * unit p) (right : |d| ≤ size * unit p) :
      |max c d| ≤ size * unit p := (abs_max_le_max_abs_abs).trans (max_le left right)
  have ends := product first.low second.low
  have outer := product first.low second.high
  have inner := product first.high second.low
  have tops := product first.high second.high
  exact ⟨abs_fdiv_le (unit_pos p) (lowest (lowest ends outer) (lowest inner tops)),
    abs_ceilDiv_le (unit_pos p) (highest (highest ends outer) (highest inner tops))⟩

theorem Nonneg.shrink (nonneg : Nonneg x) {n : Nat} (positive : 0 < n) : Nonneg (x.shrink n) :=
  ⟨fdiv_nonneg (by omega) nonneg.low, ceilDiv_nonneg (by omega) nonneg.high⟩

theorem Nonneg.mul (first : Nonneg x) (second : Nonneg y) : Nonneg (x.mul y) := by
  have ends := mul_nonneg first.low second.low
  have outer := mul_nonneg first.low second.high
  have inner := mul_nonneg first.high second.low
  have tops := mul_nonneg first.high second.high
  exact ⟨fdiv_nonneg (unit_pos p) (le_min (le_min ends outer) (le_min inner tops)),
    ceilDiv_nonneg (unit_pos p) (le_max_of_le_left (le_max_of_le_left ends))⟩

@[simp] theorem scale_zero (x : Enclosure p) : scale 0 x = zero := by
  simp [scale, zero]

@[simp] theorem add_zero (x : Enclosure p) : x.add zero = x := by
  simp [add, zero]

@[simp] theorem sub_zero (x : Enclosure p) : x.sub zero = x := by
  simp [sub, neg, add, zero]

theorem one_eq : (one : Enclosure p) = ⟨unit p, unit p⟩ := by
  simp [one, ofInt, ofRat, ceilDiv, unit]

theorem within_ofRat (q : Rat) : Within (|q.num| * unit p) (ofRat q : Enclosure p) := by
  have divisor : (1 : Int) ≤ q.den := Int.ofNat_le.2 q.den_pos
  have bounded : |q.num * unit p| ≤ |q.num| * unit p * q.den := by
    rw [abs_mul, abs_of_pos (unit_pos p)]
    exact le_mul_of_one_le_right (mul_nonneg (abs_nonneg _) (unit_pos p).le) divisor
  exact ⟨abs_fdiv_le (by omega) bounded, abs_ceilDiv_le (by omega) bounded⟩

end Operations

section Series

variable {next : Nat → Enclosure p → Enclosure p} (weight : Nat → Nat)
  (positive : ∀ i, 0 < weight i)
include positive

theorem sumSeries_near (kept : ∀ i power, Within size power → Within size (next i power))
    (terms i : Nat) {power : Enclosure p} (within : Within size power) (sum : Enclosure p) :
    |(sumSeries next weight terms i power sum).low - sum.low| ≤ terms * size + 1 ∧
      |(sumSeries next weight terms i power sum).high - sum.high| ≤ terms * size + 1 := by
  induction terms generalizing i power sum with
  | zero => simp [sumSeries, widen]
  | succ terms ih =>
    have term := within.shrink (positive i)
    obtain ⟨low, high⟩ := ih (i + 1) (kept i power within) (sum.add (power.shrink (weight i)))
    rw [sumSeries]
    simp only [add, abs_le] at low high ⊢
    obtain ⟨lowest, lower⟩ := abs_le.1 term.low
    obtain ⟨upper, highest⟩ := abs_le.1 term.high
    push_cast
    refine ⟨⟨?_, ?_⟩, ⟨?_, ?_⟩⟩ <;> linarith

theorem le_sumSeries (kept : ∀ i power, Nonneg power → Nonneg (next i power)) (terms i : Nat)
    {power : Enclosure p} (nonneg : Nonneg power) (sum : Enclosure p) :
    sum.low - 1 ≤ (sumSeries next weight terms i power sum).low := by
  induction terms generalizing i power sum with
  | zero => exact le_rfl
  | succ terms ih =>
    have term := nonneg.shrink (positive i)
    have raised := ih (i + 1) (kept i power nonneg) (sum.add (power.shrink (weight i)))
    have added : sum.low ≤ (sum.add (power.shrink (weight i))).low :=
      le_add_of_nonneg_right term.low
    exact (sub_le_sub_right added 1).trans raised

end Series

section Functions

theorem within_artanh (small : Within 0 x) : Within 1 (artanh x) := by
  have square : Within 0 (x.mul x) := small.mul small (by simp)
  have near := sumSeries_near (2 * · + 1) (fun _ => Nat.succ_pos _)
    (fun _ _ within => within.mul square (by simp)) p 0 small zero
  simp only [zero, Int.mul_zero, Int.zero_add, Int.sub_zero] at near
  exact ⟨near.1, near.2⟩

theorem within_lnFraction_one : Within 2 (lnFraction 1 : Enclosure p) := by
  have small : Within 0 (ofRat ((1 - 1) / (1 + 1)) : Enclosure p) := by
    simpa using within_ofRat (p := p) ((1 - 1) / (1 + 1))
  exact (within_artanh small).scale 2

theorem le_ln2 (positive : 0 < p) : 2 * (unit p / 3 - 1) ≤ (ln2 : Enclosure p).low := by
  obtain ⟨terms, rfl⟩ := Nat.exists_eq_succ_of_ne_zero positive.ne'
  have third : (one.shrink 3 : Enclosure (terms + 1)).low = unit (terms + 1) / 3 := by
    rw [one_eq]
    exact Int.fdiv_eq_ediv_of_nonneg _ (by decide)
  have nonneg : Nonneg (one.shrink 3 : Enclosure (terms + 1)) := by
    refine Nonneg.shrink ?_ (by decide)
    rw [one_eq]
    exact ⟨(unit_pos _).le, (unit_pos _).le⟩
  have square := nonneg.mul nonneg
  have rest := le_sumSeries (2 * · + 1) (fun _ => Nat.succ_pos _)
    (fun _ _ power => power.mul square) terms 1 (nonneg.mul square)
    (zero.add ((one.shrink 3).shrink 1))
  have first : (zero.add ((one.shrink 3).shrink 1) : Enclosure (terms + 1)).low =
      unit (terms + 1) / 3 := by
    rw [← third]
    exact (Int.zero_add _).trans (Int.fdiv_one _)
  rw [first] at rest
  exact Int.mul_le_mul_of_nonneg_left rest (by decide)

theorem expSmall_near (small : Within size x) (le : size ≤ unit p) :
    |(expSmall x).low - unit p| ≤ p * size + 1 ∧ |(expSmall x).high - unit p| ≤ p * size + 1 := by
  have nonneg : 0 ≤ size := (abs_nonneg _).trans small.low
  have whole : Within (unit p) (one : Enclosure p) := by
    rw [one_eq]
    exact ⟨(abs_of_pos (unit_pos p)).le, (abs_of_pos (unit_pos p)).le⟩
  have first : Within size ((one.mul x).shrink 1) :=
    (whole.mul small (Int.mul_comm _ _).le).shrink Nat.one_pos
  have kept (i : Nat) (power : Enclosure p) (within : Within size power) :
      Within size ((power.mul x).shrink (i + 1)) :=
    (within.mul small (Int.mul_le_mul_of_nonneg_left le nonneg)).shrink (Nat.succ_pos i)
  have near := sumSeries_near (fun _ => 1) (fun _ => Nat.one_pos) kept p 1 first
    (zero.add (one.shrink 1))
  have start : (zero.add (one.shrink 1) : Enclosure p) = ⟨unit p, unit p⟩ := by
    rw [one_eq]
    simp [zero, add, shrink, ceilDiv]
  have low : (zero.add (one.shrink 1) : Enclosure p).low = unit p := congrArg Enclosure.low start
  have high : (zero.add (one.shrink 1) : Enclosure p).high = unit p := congrArg Enclosure.high start
  rw [low, high] at near
  exact near

end Functions
end FunctionCalculator.Enclosure
