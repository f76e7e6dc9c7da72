import FunctionCalculator.Binary64.Notation
import FunctionCalculator.Proofs.Text.Lines
/-!
Numbers are written on one line, integers as well as doubles.
-/

set_option autoImplicit false

namespace FunctionCalculator

theorem Integer.lineFeed_not_mem_naturalText (n : Nat) : '\n' ∉ naturalText n := by
  unfold naturalText
  split <;> simp

theorem Integer.lineFeed_not_mem_text (n : Int) : '\n' ∉ text n := by
  unfold text
  split <;> simp [lineFeed_not_mem_naturalText]

namespace Binary64

theorem lineFeed_not_mem_exponentText (exponent : Int) : '\n' ∉ exponentText exponent := by
  rw [exponentText, List.mem_cons, List.mem_append, not_or, not_or]
  have sign : '\n' ≠ if exponent < 0 then '-' else '+' := by split <;> decide
  refine ⟨sign, ?_, Integer.lineFeed_not_mem_naturalText _⟩
  simp [List.mem_replicate]

theorem lineFeed_not_mem_layout (digits : List Nat) (place : Int) : '\n' ∉ layout digits place := by
  have figures : '\n' ∉ digits.map Nat.digitChar := by simp
  have front (n : Nat) : '\n' ∉ (digits.map Nat.digitChar).take n :=
    fun member => figures (List.mem_of_mem_take member)
  have back (n : Nat) : '\n' ∉ (digits.map Nat.digitChar).drop n :=
    fun member => figures (List.mem_of_mem_drop member)
  have exponent := lineFeed_not_mem_exponentText place
  unfold layout
  dsimp only
  split
  · split <;> simp only [List.mem_append, List.mem_cons, front, back] <;> simp
  · split
    · simp [figures]
    · split <;> simp only [List.mem_append, List.mem_cons, front, back, exponent] <;> simp

theorem lineFeed_not_mem_text (x : Binary64) : '\n' ∉ x.text := by
  cases x with
  | nan => exact Text.not_mem_toList (by decide)
  | infinity negative => cases negative <;> exact Text.not_mem_toList (by decide)
  | finite negative rank =>
    have magnitude : '\n' ∉ if rank.val = 0 then ("0.0" : Text)
        else
          layout (significant (shortestDecimal rank)).1 (significant (shortestDecimal rank)).2 := by
      split
      · exact Text.not_mem_toList (by decide)
      · exact lineFeed_not_mem_layout _ _
    show '\n' ∉ finiteText negative rank
    cases negative with
    | false => exact magnitude
    | true => exact List.not_mem_cons_of_ne_of_not_mem (by decide) magnitude

end Binary64
end FunctionCalculator
