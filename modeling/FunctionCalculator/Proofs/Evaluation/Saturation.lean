import FunctionCalculator.Proofs.Binary64.Half
import FunctionCalculator.Proofs.Evaluation.Arguments
/-!
The range of rounding to an integer. Only infinities are brought to a bound; a finite double is
rounded to an integer of any size.
-/

set_option autoImplicit false

namespace FunctionCalculator

namespace Builtin

open Binary64 (exact half finiteRanks unitBits binade)

def WithinBounds (n : Int) : Prop := -2 ^ 63 ≤ n ∧ n ≤ 2 ^ 63 - 1

theorem within_bounds : WithinBounds roundingBounds.1 ∧ WithinBounds roundingBounds.2 := by
  unfold WithinBounds roundingBounds
  decide

theorem within_floor_iff (q : ℚ) : WithinBounds q.floor ↔ -2 ^ 63 ≤ q ∧ q < 2 ^ 63 := by
  have lower : -2 ^ 63 ≤ q.floor ↔ -2 ^ 63 ≤ q := by
    rw [Rat.le_floor_iff]
    norm_num
  have upper : q.floor < 2 ^ 63 ↔ q < 2 ^ 63 := by
    rw [Rat.floor_lt_iff]
    norm_num
  rw [WithinBounds, Int.le_sub_one_iff, lower, upper]

theorem rounded_finite {negative sign : Bool} {rank place : Fin finiteRanks}
    (sum : Binary64.finite negative rank + half = .finite sign place) :
    rounded (.finite negative rank) = (exact sign place).floor := by
  rw [rounded, sum]
  rfl

theorem exact_range (negative : Bool) {rank : Nat} (small : exact false rank ≤ 2 ^ 54) :
    -2 ^ 63 ≤ exact negative rank ∧ exact negative rank < 2 ^ 63 := by
  rw [← Binary64.abs_exact negative] at small
  obtain ⟨lower, upper⟩ := abs_le.1 small
  constructor <;> linarith

theorem within_rounded_finite_iff (negative : Bool) (rank : Fin finiteRanks) :
    WithinBounds (rounded (.finite negative rank)) ↔
      -2 ^ 63 ≤ exact negative rank ∧ exact negative rank < 2 ^ 63 := by
  -- Where the half is seen, the double and the sum are both far within the range.
  obtain large | small := Nat.lt_or_ge ((unitBits + 1 + 1) * binade) rank
  · rw [rounded_finite (Binary64.add_half_of_large negative large), within_floor_iff]
  · obtain ⟨bounded, sign, place, sum, near⟩ := Binary64.add_half_of_small negative small
    rw [rounded_finite sum, within_floor_iff]
    exact iff_of_true (exact_range sign near) (exact_range negative (by linarith))

theorem within_rounded_iff (x : Binary64) :
    WithinBounds (rounded x) ↔ ∀ q, x.value? = some q → -2 ^ 63 ≤ q ∧ q < 2 ^ 63 := by
  cases x with
  | nan => exact iff_of_true (by unfold WithinBounds rounded; decide) nofun
  | infinity negative =>
    refine iff_of_true ?_ nofun
    cases negative with
    | false => exact within_bounds.2
    | true => exact within_bounds.1
  | finite negative rank =>
    rw [within_rounded_finite_iff]
    constructor
    · rintro within _ ⟨⟩
      exact within
    · intro within
      exact within _ rfl

def Saturates (argument : Text) : Prop :=
  ∃ n, Meaning.onTexts round.readings (meaning .round) [argument] = .ok (.int n) ∧ WithinBounds n

theorem saturates_iff {argument : Text} {x : Binary64} (read : Binary64.read? argument = some x) :
    Saturates argument ↔ ∀ q, x.value? = some q → -2 ^ 63 ≤ q ∧ q < 2 ^ 63 := by
  have answered :
      Meaning.onTexts round.readings (meaning .round) [argument] = .ok (.int (rounded x)) :=
    Evaluation.onTexts_one .double (meaning .round) read
  rw [Saturates, answered, ← within_rounded_iff]
  constructor
  · rintro ⟨_, ⟨⟩, within⟩
    exact within
  · exact fun within => ⟨_, rfl, within⟩

theorem saturates_at_bound : Saturates "-1e400" ∧ Saturates "-9223372036854775808" := by
  have read : Binary64.read? "-9223372036854775808" =
      some (.finite true ⟨(unitBits + 11) * binade + binade, by decide⟩) := by decide +kernel
  refine ⟨?_, (saturates_iff read).2 ?_⟩
  · exact (saturates_iff (x := .infinity true) (by decide +kernel)).2 nofun
  rintro _ ⟨⟩
  rw [Binary64.exact_true, Binary64.exact_whole]
  norm_num

theorem round_beyond_range :
    Evaluation.evaluate "round" ["1e19"] = .ok "10000000000000000000" ∧ ¬ Saturates "1e19" := by
  have answered : Meaning.onTexts round.readings (meaning .round) ["1e19"] =
      .ok (.int 10000000000000000000) := by decide +kernel
  refine ⟨by decide +kernel, ?_⟩
  rw [Saturates, answered]
  rintro ⟨_, ⟨⟩, within⟩
  exact absurd within.2 (by decide)

end Builtin
end FunctionCalculator
