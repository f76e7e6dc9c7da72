import FunctionCalculator.Proofs.Evaluation.Outcome
import FunctionCalculator.Proofs.Integer.Square
/-!
When the evaluation tells squares from all other numbers. The root is taken through a double, so it
is only right where the root is a double itself.
-/

set_option autoImplicit false

namespace FunctionCalculator.Evaluation

def DecidesSquare (argument : Text) (n : Int) : Prop :=
  ((∃ k : Int, k * k = n) → evaluate "isperfectsquare" [argument] = .ok "true") ∧
    ((¬ ∃ k : Int, k * k = n) → evaluate "isperfectsquare" [argument] = .ok "false")

variable {argument : Text} {n : Int}

theorem evaluate_isPerfectSquare (read : Integer.read? argument = some n) :
    evaluate "isperfectsquare" [argument] =
      shown (Builtin.checked .bool (Integer.isPerfectSquare n)) :=
  evaluate_one .isPerfectSquare .integer rfl read

theorem decidesSquare_iff_of_answer {square : Bool}
    (answered : evaluate "isperfectsquare" [argument] = .ok (if square then "true" else "false")) :
    DecidesSquare argument n ↔ (square = true ↔ ∃ k : Int, k * k = n) := by
  rw [DecidesSquare, answered]
  cases square <;> simp

/-- Exactly those numbers are judged rightly that are not too large for a double and whose root, if
they have one, is a double. -/
theorem decidesSquare_iff (read : Integer.read? argument = some n) :
    DecidesSquare argument n ↔
      n < Binary64.integerLimit ∧
        ∀ k : Nat, ((k * k : Nat) : Int) = n → Binary64.FitsSignificand k := by
  have evaluated := evaluate_isPerfectSquare read
  obtain small | large := Int.lt_or_le n Binary64.integerLimit
  · obtain ⟨square, computed, correct⟩ := Integer.isPerfectSquare_correct_iff small
    rw [computed] at evaluated
    rw [decidesSquare_iff_of_answer evaluated, correct, and_iff_right small]
  · rw [isPerfectSquare_of_large large] at evaluated
    refine iff_of_false ?_ fun ⟨small, _⟩ => absurd small (Int.not_lt.2 large)
    rintro ⟨square, other⟩
    by_cases root : ∃ k : Int, k * k = n
    · exact absurd (evaluated.symm.trans (square root)) nofun
    · exact absurd (evaluated.symm.trans (other root)) nofun

theorem decidesSquare_of_double_root :
    DecidesSquare "81129638414606663681390495662081" 81129638414606663681390495662081 := by
  refine (decidesSquare_iff (by decide +kernel)).2 ⟨by decide +kernel, fun k root => ?_⟩
  exact Binary64.fits_of_mul_self_lt (by omega)

/-- The square of the first number that is no double is not recognised. -/
theorem square_not_recognised :
    evaluate "isperfectsquare" ["81129638414606699710187514626049"] = .ok "false" ∧
      ¬ DecidesSquare "81129638414606699710187514626049" 81129638414606699710187514626049 := by
  have answered :
      evaluate "isperfectsquare" ["81129638414606699710187514626049"] = .ok "false" := by
    decide +kernel
  refine ⟨answered, fun decides => ?_⟩
  have recognised := decides.1 ⟨9007199254740993, rfl⟩
  exact absurd (answered.symm.trans recognised) (by decide)

end FunctionCalculator.Evaluation
