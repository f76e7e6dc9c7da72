import FunctionCalculator.Binary64.Arithmetic
import Mathlib.Tactic.Ring
import Mathlib.Tactic.Linarith
/-!
Which integers are beyond every double: those nearer to the power of two after the largest finite
magnitude than to that magnitude itself, and the one halfway between the two.
-/

set_option autoImplicit false

namespace FunctionCalculator.Binary64

def integerLimit : Nat := 2 ^ 1024 - 2 ^ 970

-- Rounding reaches an even number from half a unit below it on.
theorem le_roundHalfEven_iff {n d k : Nat} (positive : 0 < d) (even : k % 2 = 0) :
    k ≤ roundHalfEven n d ↔ 2 * k * d ≤ 2 * n + d := by
  have split := Nat.div_add_mod n d
  have small := Nat.mod_lt n positive
  unfold roundHalfEven
  generalize n / d = q at split ⊢
  generalize n % d = t at split small ⊢
  subst split
  rcases Nat.lt_trichotomy k (q + 1) with below | equal | above
  · have : k * d ≤ d * q := by nlinarith
    have left : 2 * k * d ≤ 2 * (d * q + t) + d := by nlinarith
    simp only [left, iff_true]
    grind
  · subst equal
    have : 2 * (q + 1) * d ≤ 2 * (d * q + t) + d ↔ d ≤ 2 * t := by
      constructor <;> intro h <;> nlinarith
    rw [this]
    grind
  · have : (q + 2) * d ≤ k * d := Nat.mul_le_mul_right d above
    have right : ¬ 2 * k * d ≤ 2 * (d * q + t) + d := by nlinarith
    simp only [right, iff_false]
    grind

theorem two_pow_succ_le {a b : Nat} (less : a < b) : 2 ^ a * 2 ≤ 2 ^ b := by
  rw [← Nat.pow_succ]
  exact Nat.pow_le_pow_right (by decide) less

-- The exponents are variables, so that no step evaluates a power of two.
theorem finiteRanks_le_nearestRank_iff (units : Nat) {last : Nat} (known : last = 2045) :
    finiteRanks ≤ nearestRank units 1 ↔ 2 ^ 54 * 2 ^ last ≤ 2 * units + 2 ^ last := by
  have high := Nat.lt_log2_self (n := units)
  rw [nearestRank, Nat.div_one, Nat.one_shiftLeft]
  generalize shifted : units.log2 - 52 = shift
  have top : units < 2 ^ 53 * 2 ^ shift := by
    rw [← Nat.pow_add]
    exact lt_of_lt_of_le high (Nat.pow_le_pow_right (by decide) (by omega))
  have rounding (k : Nat) (even : k % 2 = 0) :=
    le_roundHalfEven_iff (n := units) (Nat.two_pow_pos shift) even
  rcases Nat.lt_trichotomy shift last with below | equal | above
  · have gap := two_pow_succ_le below
    have small := (rounding (3 * binade) (by decide)).not
    have positive := Nat.two_pow_pos shift
    simp only [finiteRanks, binade] at small ⊢
    omega
  · subst equal
    have carry := rounding (2 * binade) (by decide)
    simp only [finiteRanks, binade] at carry ⊢
    omega
  · have nonzero : units ≠ 0 := by
      rintro rfl
      simp at shifted
      omega
    have low := Nat.log2_self_le nonzero
    have gap := two_pow_succ_le above
    have bottom : 2 ^ 52 * 2 ^ shift ≤ units := by
      rw [← Nat.pow_add]
      exact le_trans (Nat.pow_le_pow_right (by decide) (by omega)) low
    have large := rounding binade (by decide)
    simp only [finiteRanks, binade] at large ⊢
    omega

theorem two_pow_mul (a b : Nat) {c : Nat} (sum : a + b = c) : 2 ^ a * 2 ^ b = 2 ^ c := by
  rw [← Nat.pow_add, sum]

theorem integerLimit_le_iff (m : Nat) :
    integerLimit ≤ m ↔ finiteRanks ≤ nearestRank (m <<< unitBits) 1 := by
  generalize bits : unitBits = unit
  obtain ⟨last, known⟩ : ∃ last, last = 2045 := ⟨_, rfl⟩
  have half := two_pow_mul 970 (unit + 1) (c := last) (by simp only [unitBits] at bits; omega)
  have scaled : 2 * (m * 2 ^ unit) = m * 2 ^ (unit + 1) := by
    rw [Nat.pow_succ]
    ring
  rw [finiteRanks_le_nearestRank_iff _ known, Nat.shiftLeft_eq, scaled, ← half, ← Nat.mul_assoc,
    two_pow_mul 54 970 rfl, ← Nat.add_mul, Nat.mul_le_mul_right_iff (Nat.two_pow_pos _),
    integerLimit, Nat.sub_le_iff_le_add]

theorem isFinite_of_rank_iff (negative : Bool) (rank : Nat) :
    (if small : rank < finiteRanks then finite negative ⟨rank, small⟩
      else infinity negative).isFinite = true ↔ rank < finiteRanks := by
  by_cases small : rank < finiteRanks
  · rw [dif_pos small]
    exact ⟨fun _ => small, fun _ => rfl⟩
  · rw [dif_neg small]
    exact ⟨nofun, fun h => absurd h small⟩

-- `simp` would have the kernel count through the shift, so the ranks are put in by name.
theorem isFinite_ofRat_iff {q : Rat} {m : Nat} (num : q.num.natAbs = m) (den : q.den = 1) :
    (ofRat false q).isFinite = true ↔ ¬ integerLimit ≤ m := by
  rw [integerLimit_le_iff, Nat.not_le, ← num, ← den]
  exact isFinite_of_rank_iff _ (nearestRank (q.num.natAbs <<< unitBits) q.den)

theorem ofInt_eq_none_iff_isFinite (n : Int) :
    ofInt? n = none ↔ ¬ (ofRat false n).isFinite = true := by
  unfold ofInt?
  generalize ofRat false n = x
  by_cases finite : x.isFinite = true <;> simp [finite]

theorem ofInt_natCast_eq_none_iff (m : Nat) : ofInt? m = none ↔ integerLimit ≤ m := by
  have num : ((m : Int) : Rat).num.natAbs = m := by simp
  have den : ((m : Int) : Rat).den = 1 := by simp
  rw [ofInt_eq_none_iff_isFinite, isFinite_ofRat_iff num den, not_not]

end FunctionCalculator.Binary64
