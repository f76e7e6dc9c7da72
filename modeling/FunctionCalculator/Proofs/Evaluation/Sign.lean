import FunctionCalculator.Evaluation
import FunctionCalculator.Proofs.Binary64.OddPower
/-!
When powers keep the sign of the real power. Results that are too large for a double become infinite
without a sign, and nothing else loses it.
-/

set_option autoImplicit false

namespace FunctionCalculator.Builtin

open Binary64 (Opposite Overflows)

variable {a b : Binary64}

/-- A power that is too large is infinite with the sign of the real power. -/
def OverflowSigned (a b : Binary64) : Prop :=
  Overflows a b → a.power b = .infinity (a.isNegative && b.isOdd)

def OddInBase (a b : Binary64) : Prop :=
  ¬ a.isZero → b.isOdd → ∀ r, meaning .power a b = double r → meaning .power (-a) b = double (-r)

def Antisymmetric (a b : Binary64) : Prop :=
  ∀ r, meaning .cubeOfDifference a b = double r →
    ∃ s, meaning .cubeOfDifference b a = double s ∧ Opposite r s

theorem double_injective {x y : Binary64} (same : double x = double y) : x = y := by
  unfold double at same
  simpa using same

theorem overflowSigned_iff :
    OverflowSigned a b ↔ ¬ (Overflows a b ∧ a.isNegative ∧ b.isOdd) := by
  rw [OverflowSigned, not_and]
  refine forall_congr' fun overflows => ?_
  rw [overflows.power_eq, Binary64.infinity.injEq, eq_comm, ← Bool.not_eq_true, Bool.and_eq_true]

theorem oddInBase_iff : OddInBase a b ↔ ¬ (Overflows a b ∧ ¬ a.isZero ∧ b.isOdd) := by
  constructor
  · rintro kept ⟨overflows, nonzero, odd⟩
    have negated := double_injective (kept nonzero odd (a.power b) rfl)
    exact (Binary64.power_neg_iff nonzero odd).1 negated overflows
  · intro small nonzero odd r computed
    obtain rfl : a.power b = r := double_injective computed
    have negated := Binary64.power_neg nonzero odd fun overflows => small ⟨overflows, nonzero, odd⟩
    exact congrArg double negated

theorem isOdd_three : (3 : Binary64).isOdd := by
  decide +kernel

theorem isNegative_three : (3 : Binary64).isNegative = false := by
  decide +kernel

theorem antisymmetric_iff : Antisymmetric a b ↔ ¬ Overflows (a - b) 3 := by
  rw [← Binary64.power_opposite_iff isOdd_three isNegative_three (Binary64.sub_opposite a b)]
  constructor
  · intro kept
    obtain ⟨s, computed, opposite⟩ := kept ((a - b).power 3) rfl
    obtain rfl : (b - a).power 3 = s := double_injective computed
    exact opposite
  · intro opposite r computed
    obtain rfl : (a - b).power 3 = r := double_injective computed
    exact ⟨(b - a).power 3, rfl, opposite⟩

/-- The sign is lost where a negative number to an odd power is too large, and then only. The odd
powers of two opposite bases and the cubes of the two differences are opposite unless they are too
large. -/
theorem sign_kept_iff (a b : Binary64) :
    (OverflowSigned a b ↔ ¬ (Overflows a b ∧ a.isNegative ∧ b.isOdd)) ∧
      (OddInBase a b ↔ ¬ (Overflows a b ∧ ¬ a.isZero ∧ b.isOdd)) ∧
      (Antisymmetric a b ↔ ¬ Overflows (a - b) 3) :=
  ⟨overflowSigned_iff, oddInBase_iff, antisymmetric_iff⟩

theorem power_loses_sign :
    Evaluation.evaluate "power" ["-10", "309"] = .ok "Infinity" ∧ ¬ OverflowSigned (-10) 309 := by
  have lost : Overflows (-10) 309 ∧ (-10 : Binary64).isNegative ∧ (309 : Binary64).isOdd := by
    unfold Overflows
    decide +kernel
  exact ⟨by decide +kernel, fun signed => overflowSigned_iff.1 signed lost⟩

end FunctionCalculator.Builtin
