import FunctionCalculator.Proofs.Call.Parentheses
import FunctionCalculator.Proofs.Code.Listing
/-!
The text of a call, listed and evaluated. The listing takes all that stands before the arguments
for the name, while the evaluation expects a type word there first; both read the same arguments.
-/

set_option autoImplicit false

namespace FunctionCalculator.Code

open Call (splitCommas argumentsOf splitParentheses?)

variable {header inside word : Text}

theorem map_trim_splitCommas (inside : Text) :
    (splitCommas inside.trim).map Text.trim = (splitCommas inside).map Text.trim :=
  Text.map_trim_pieces_trim Call.comma_of_blank inside

theorem map_trim_argumentsOf (inside : Text) :
    (argumentsOf inside).map Text.trim = argumentsOf inside := by
  rw [Call.argumentsOf_eq]
  split
  · rfl
  · rw [List.map_map]
    exact List.map_congr_left fun piece _ => Text.trimmed_trim piece

theorem map_trim_splitCommas_eq (inside : Text) :
    (splitCommas inside).map Text.trim =
      if argumentsOf inside = [] then [[]] else argumentsOf inside := by
  rw [← map_trim_splitCommas, Call.argumentsOf_eq]
  by_cases blank : inside.trim = []
  · rw [if_pos blank, if_pos rfl, blank]
    rfl
  · have nonempty : (splitCommas inside.trim).map Text.trim ≠ [] :=
      mt List.map_eq_nil_iff.1 (Text.pieces_ne_nil _ _)
    rw [if_neg blank, if_neg nonempty]

theorem ofCall_of_split {text : Text} (split : splitParentheses? text = some (header, inside)) :
    ofCall text = .ok (generate (some header.trim) ((splitCommas inside).map some)) := by
  simp only [ofCall, split]

theorem splitParentheses_prepend (first : Call.IsWord word) {text : Text}
    (split : splitParentheses? text = some (header, inside)) :
    splitParentheses? (word ++ ' ' :: text) = some (word ++ ' ' :: header, inside) := by
  obtain ⟨⟨noOpening, noClosing, unclosed⟩, rest, rfl⟩ := Call.splitParentheses_eq_some.1 split
  refine Call.splitParentheses_eq_some.2 ⟨⟨?_, ?_, unclosed⟩, rest, by simp⟩
  · simp [first.noOpening, noOpening]
  · simp [first.noClosing, noClosing]

/-- A call whose header is only a name is listed with the arguments that are parsed from it once a
type word stands before it. Where there are none, the listing has one empty argument. -/
theorem ofCall_agrees_with_parse {text name : Text} (first : Call.IsWord word)
    (closing : ¬ Call.ClosesFirst text) (trimmed : Text.trim (text.takeWhile (· ≠ '(')) = name)
    (single : Text.words name = [name]) :
    ∃ arguments, Call.parse (word ++ ' ' :: text) = .ok ⟨name, arguments⟩ ∧
      ofCall text =
        .ok (generate (some name) ((if arguments = [] then [[]] else arguments).map some)) := by
  obtain ⟨inside, split⟩ := Call.exists_split closing
  have words : Text.words (word ++ ' ' :: text.takeWhile (· ≠ '(')) = [word, name] := by
    rw [Call.words_prepend first, ← Text.words_trim, trimmed, single]
  refine ⟨argumentsOf inside, Call.parse_of_words (splitParentheses_prepend first split) words, ?_⟩
  rw [ofCall_of_split split, trimmed]
  refine congrArg _ (generate_congr ?_ _)
  rw [map_trim_splitCommas_eq]
  split
  · rfl
  · exact (map_trim_argumentsOf inside).symm

theorem ofCall_agrees_with_parse_blanks :
    let listed : Text := " Max\t( -3 ,4,) ;"
    let empty : Text := "increment( )("
    (∃ arguments, Call.parse ("int" ++ ' ' :: listed) = .ok ⟨"Max", arguments⟩ ∧
        ofCall listed =
          .ok (generate (some "Max") ((if arguments = [] then [[]] else arguments).map some))) ∧
      ∃ arguments, Call.parse ("int" ++ ' ' :: empty) = .ok ⟨"increment", arguments⟩ ∧
        ofCall empty =
          .ok (generate (some "increment")
            ((if arguments = [] then [[]] else arguments).map some)) := by
  intro listed empty
  have type : Call.IsWord "int" := by decide
  constructor
  · exact ofCall_agrees_with_parse type (by decide) (by decide) (by decide)
  · exact ofCall_agrees_with_parse type (by decide) (by decide) (by decide)

end FunctionCalculator.Code
