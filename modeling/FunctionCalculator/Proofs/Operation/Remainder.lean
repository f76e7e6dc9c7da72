import FunctionCalculator.Proofs.Call.Parentheses
import FunctionCalculator.Proofs.Operation.Outcome
/-!
What stands after the first closing parenthesis of a call. It is never looked at, neither for the
semicolon at the end nor for further parentheses, and trimming the source does not bring it back.
-/

set_option autoImplicit false

namespace FunctionCalculator

theorem Code.ofCall_append {text : Text} (closing : ')' ∈ text) (after : Text) :
    ofCall (text ++ after) = ofCall text := by
  simp only [ofCall, Call.splitParentheses_append_of_closing closing]

namespace Operation

def EndsAtClosing (operation : Operation) : Prop :=
  ∀ text after : Text, ')' ∈ text → operation.attempt (text ++ after) = operation.attempt text

theorem evaluate_endsAtClosing : EndsAtClosing .evaluate := by
  intro text after closing
  simp only [attempt, evaluateCall, Call.parse_append closing]

theorem listing_endsAtClosing : EndsAtClosing .listing :=
  fun _ after closing => Code.ofCall_append closing after

-- The blank characters between the parenthesis and the rest are trimmed from the one source and not
-- from the other, so the trimmed sources are compared as a text and a longer one.
theorem EndsAtClosing.run_append {operation : Operation} (ends : operation.EndsAtClosing)
    {text : Text} (closing : ')' ∈ text) (after : Text) :
    operation.run (text ++ after) = operation.run text := by
  have visible : Text.isBlank ')' = false := by decide
  have kept : ')' ∈ text.trim := ((Text.padded_trim text).mem_iff visible).1 closing
  have nonblank : text.trim ≠ [] := List.ne_nil_of_mem kept
  obtain ⟨rest, longer⟩ := Text.trim_prefix_append text after
  have more : text.trim ++ rest ≠ [] := List.append_ne_nil_of_left_ne_nil nonblank rest
  rw [run_eq, run_eq, ← longer, if_neg nonblank, if_neg more, ends text.trim rest kept]

theorem remainder_ignored {text : Text} (closing : ')' ∈ text) (after : Text) :
    Call.parse (text ++ after) = Call.parse text ∧
      Code.ofCall (text ++ after) = Code.ofCall text ∧
      Operation.evaluate.run (text ++ after) = Operation.evaluate.run text ∧
      Operation.listing.run (text ++ after) = Operation.listing.run text :=
  ⟨Call.parse_append closing after, Code.ofCall_append closing after,
    evaluate_endsAtClosing.run_append closing after, listing_endsAtClosing.run_append closing after⟩

theorem remainder_ignored_call :
    let text : Text := " int gcd(12, 18) "
    let after : Text := ";\n) lcm(0, 0);"
    (')' ∈ text ∧ Operation.evaluate.run text = "Result: 6") ∧
      Call.parse (text ++ after) = Call.parse text ∧
      Code.ofCall (text ++ after) = Code.ofCall text ∧
      Operation.evaluate.run (text ++ after) = Operation.evaluate.run text ∧
      Operation.listing.run (text ++ after) = Operation.listing.run text := by
  intro text after
  have closing : ')' ∈ text := by decide
  exact ⟨⟨closing, by decide +kernel⟩, remainder_ignored closing after⟩

end Operation
end FunctionCalculator
