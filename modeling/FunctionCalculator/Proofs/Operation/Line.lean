import FunctionCalculator.Proofs.Call.Parentheses
import FunctionCalculator.Proofs.Declaration.Grammar
import FunctionCalculator.Proofs.Evaluation.Outcome
import FunctionCalculator.Proofs.Operation.Outcome
/-!
Whether a failure is told on one line. Names are cut out of the source at blank characters, so
that they hold no line feed, except for the name of a listing, which is only trimmed.
-/

set_option autoImplicit false

namespace FunctionCalculator

theorem Text.lineFeed_not_mem_word {text word : Text} (member : word ∈ words text) :
    '\n' ∉ word := by
  intro broken
  exact absurd (not_blank_of_mem_words member '\n' broken) (by decide)

theorem Declaration.check_echoed {text : Text} {error : Error}
    (checked : check text = .error error) : '\n' ∉ error.echoed := by
  cases check_eq_error_iff.1 checked with
  | semicolon | parenthesis | header => nofun
  | @name front _ _ name _ words =>
    have member : name ∈ Text.words front := by simp [words]
    exact Text.lineFeed_not_mem_word member

theorem Call.parse_echoed {text : Text} {error : Error} (parsed : parse text = .error error) :
    error.echoed = [] := by
  unfold parse at parsed
  split at parsed
  · obtain rfl := Except.error.inj parsed
    rfl
  · split at parsed
    · cases parsed
    · obtain rfl := Except.error.inj parsed
      rfl

theorem Call.name_mem_words {text : Text} {call : Call} (parsed : parse text = .ok call) :
    ∃ header, call.name ∈ Text.words header := by
  obtain ⟨header, _, _, _, _, words, _⟩ := parse_ok parsed
  exact ⟨header, by simp [words]⟩

theorem Expression.display_echoed {text : Text} {error : Error}
    (displayed : display text = .error error) : error.echoed = [] := by
  unfold display at displayed
  split at displayed
  · cases displayed
  · unfold displayParsed at displayed
    split at displayed
    · obtain rfl := Except.error.inj displayed
      rfl
    · by_cases missing : [] ∈ rawPieces text
      · rw [parse_of_missing missing] at displayed
        obtain rfl := Except.error.inj displayed
        rfl
      · rw [parse_of_complete missing] at displayed
        cases rendered : render ((reference text).map Operator.label) with
        | ok lines => simp [rendered, Except.mapError] at displayed
        | error fault =>
          simp only [rendered, Except.mapError] at displayed
          obtain rfl := Except.error.inj displayed
          rfl

namespace Operation

theorem whole_line {error : Error} (whole : '\n' ∉ error.echoed) :
    '\n' ∉ error.line.dropFinalLineFeed := by
  intro broken
  exact whole ((Error.lineFeed_mem_line error).1 (Text.mem_of_mem_dropFinalLineFeed broken))

theorem whole_line_of_silent {error : Error} (silent : error.echoed = []) :
    '\n' ∉ error.line.dropFinalLineFeed :=
  whole_line (silent ▸ List.not_mem_nil)

-- What stands before the parenthesis of a listing's call goes over a line end.
def BrokenName (operation : Operation) (text : Text) : Prop :=
  operation = .listing ∧
    ∃ header inside, Call.splitParentheses? text = some (header, inside) ∧ '\n' ∈ header.trim

theorem Failure.broken_iff {text line : Text} {operation : Operation}
    (failure : Failure text operation line) :
    '\n' ∈ line.dropFinalLineFeed ↔ BrokenName operation text := by
  cases failure with
  | declaration checked =>
    exact iff_of_false (whole_line (Declaration.check_echoed checked)) nofun
  | call parsed =>
    exact iff_of_false (whole_line_of_silent (Call.parse_echoed parsed)) nofun
  | evaluation parsed evaluated =>
    refine iff_of_false ?_ nofun
    rcases Evaluation.evaluate_echoed evaluated with silent | name
    · exact whole_line_of_silent silent
    · obtain ⟨header, member⟩ := Call.name_mem_words parsed
      exact whole_line (name ▸ Text.lineFeed_not_mem_word member)
  | parentheses missing =>
    refine iff_of_false (whole_line_of_silent rfl) ?_
    rintro ⟨-, header, inside, split, -⟩
    simp [missing] at split
  | listing split emitted =>
    rw [Code.lineFeed_mem_refusal emitted]
    constructor
    · intro broken
      exact ⟨rfl, _, _, split, broken⟩
    · rintro ⟨-, header, inside, again, broken⟩
      obtain ⟨rfl, rfl⟩ : _ = header ∧ _ = inside := by simpa [split] using again
      exact broken
  | tree displayed =>
    exact iff_of_false (whole_line_of_silent (Expression.display_echoed displayed)) nofun

theorem blankMessage_whole (operation : Operation) :
    '\n' ∉ operation.blankMessage.dropFinalLineFeed := by
  intro broken
  have member := Text.mem_of_mem_dropFinalLineFeed broken
  cases operation <;>
    rcases List.mem_append.1 member with member | member <;>
      exact Text.not_mem_toList (by decide) member

theorem splitParentheses_nil : Call.splitParentheses? [] = none := rfl

theorem run_broken_iff {operation : Operation} {source : Text}
    (failed : Text.startsWith Error.mark (operation.run source) = true) :
    '\n' ∈ (operation.run source).dropFinalLineFeed ↔ BrokenName operation source.trim := by
  by_cases blank : source.trim = []
  · rw [run_of_blank operation blank, blank]
    refine iff_of_false operation.blankMessage_whole ?_
    rintro ⟨-, header, inside, split, -⟩
    simp [splitParentheses_nil] at split
  · cases run_of_nonblank operation blank with
    | failed failure => exact failure.broken_iff
    | succeeded opens => exact absurd failed (not_marked_of_opens opens)

theorem BrokenName.fails {operation : Operation} {text : Text}
    (broken : BrokenName operation text) :
    ∃ line, Failure text operation line := by
  obtain ⟨rfl, header, inside, split, lineFeed⟩ := broken
  exact ⟨_, .listing split (Code.emit_of_unsupported (Code.resolve_lineFeed lineFeed) _)⟩

theorem run_marked_of_fails {operation : Operation} {source : Text}
    (fails : ∃ line, Failure source.trim operation line) :
    Text.startsWith Error.mark (operation.run source) = true := by
  by_cases blank : source.trim = []
  · rw [run_of_blank operation blank]
    exact blankMessage_marked operation
  · cases run_of_nonblank operation blank with
    | failed failure => exact failure.marked
    | succeeded _ none =>
      obtain ⟨line, failure⟩ := fails
      exact absurd failure (none line)

/-- A failure is one line, up to its end, exactly when it is not the broken name of a listing. -/
theorem failure_whole_iff (operation : Operation) (source : Text) :
    (Text.startsWith Error.mark (operation.run source) = true →
        '\n' ∉ (operation.run source).dropFinalLineFeed) ↔
      ¬ BrokenName operation source.trim := by
  constructor
  · intro whole broken
    have failed := run_marked_of_fails broken.fails
    exact whole failed ((run_broken_iff failed).2 broken)
  · intro unbroken failed lineFeed
    exact unbroken ((run_broken_iff failed).1 lineFeed)

theorem failure_of_two_lines :
    Operation.listing.run "int\nadd(1, 2)" = "Error: Unsupported function 'int\nadd'\n" ∧
      ¬ (Text.startsWith Error.mark (Operation.listing.run "int\nadd(1, 2)") = true →
        '\n' ∉ (Operation.listing.run "int\nadd(1, 2)").dropFinalLineFeed) := by
  decide +kernel

end Operation
end FunctionCalculator
