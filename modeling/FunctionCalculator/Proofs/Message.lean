import FunctionCalculator.Error
import FunctionCalculator.Proofs.Text.Lines
/-!
What the message of an error repeats of the text that it is about.
-/

set_option autoImplicit false

namespace FunctionCalculator.Error

def echoed : Error → Text
  | .undefinedFunction name | .unknownFunction name | .unsupportedListing name => name
  | _ => []

theorem lineFeed_not_mem_cause (cause : Fault) : '\n' ∉ cause.message := by
  cases cause <;> exact Text.not_mem_toList (by decide)

theorem mem_message {c : Char} {before name after : Text} (first : c ∉ before) (last : c ∉ after) :
    c ∈ before ++ name ++ after ↔ c ∈ name := by
  simp [first, last]

theorem lineFeed_mem_message (error : Error) : '\n' ∈ error.message ↔ '\n' ∈ error.echoed := by
  cases error with
  | undefinedFunction name | unknownFunction name | unsupportedListing name =>
    exact mem_message (Text.not_mem_toList (by decide)) (Text.not_mem_toList (by decide))
  | fault cause => exact iff_of_false (lineFeed_not_mem_cause cause) nofun
  | invalidCall gap =>
    refine iff_of_false (fun member => ?_) nofun
    rcases List.mem_append.1 member with member | member
    · exact Text.not_mem_toList (by decide) member
    · cases gap <;> exact Text.not_mem_toList (by decide) member
  | _ => exact iff_of_false (Text.not_mem_toList (by decide)) nofun

theorem lineFeed_mem_line (error : Error) : '\n' ∈ error.line ↔ '\n' ∈ error.echoed := by
  unfold line
  rw [List.mem_append, lineFeed_mem_message]
  exact or_iff_right (Text.not_mem_toList (by decide))

end FunctionCalculator.Error
