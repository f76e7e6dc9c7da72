import FunctionCalculator.Operation
import FunctionCalculator.Proofs.Code.Listing
import FunctionCalculator.Proofs.Expression.Root
/-!
A run either fails and shows the line of the failure, or succeeds and shows a text that opens in
its own way. The two are told apart by how the text starts, whatever it repeats of its source.
-/

set_option autoImplicit false

namespace FunctionCalculator.Operation

/-- The ways in which an operation fails on a trimmed text, each with the line told for it. -/
inductive Failure (text : Text) : Operation → Text → Prop
  | declaration {error : Error} (checked : Declaration.check text = .error error) :
    Failure text .validate error.line
  | call {error : Error} (parsed : Call.parse text = .error error) :
    Failure text .evaluate error.line
  | evaluation {call : Call} {error : Error} (parsed : Call.parse text = .ok call)
    (evaluated : Evaluation.evaluate call.name call.arguments = .error error) :
    Failure text .evaluate error.line
  | parentheses (split : Call.splitParentheses? text = none) :
    Failure text .listing Error.invalidListingCall.line
  | listing {header inside : Text} {refusal : Code.Refusal}
    (split : Call.splitParentheses? text = some (header, inside))
    (emitted : Code.emit (some header.trim) ((Call.splitCommas inside).map some) = .error refusal) :
    Failure text .listing refusal.line
  | tree {error : Error} (displayed : Expression.display text = .error error) :
    Failure text .tree error.line

def opening : Operation → Text → Text
  | .validate, _ => "Function '"
  | .tokens, _ => "Function Declaration: "
  | .evaluate, _ => "Result: "
  | .listing, _ => "t1 = "
  | .tree, text => Expression.rootLabel text ++ ['\n']

def told (result : Except Error Text) : Text :=
  match result with
  | .ok shown => shown
  | .error error => error.line

theorem run_eq (operation : Operation) (source : Text) :
    operation.run source =
      if source.trim = [] then operation.blankMessage else told (operation.attempt source.trim) :=
  rfl

inductive Outcome (operation : Operation) (text : Text) : Text → Prop
  | failed {line : Text} (failure : Failure text operation line) : Outcome operation text line
  | succeeded {shown : Text} (opens : Text.startsWith (operation.opening text) shown = true)
    (unfailing : ∀ line, ¬ Failure text operation line) : Outcome operation text shown

section Outcomes

variable (text : Text)

theorem validate_outcome : Outcome .validate text (told (attempt .validate text)) := by
  simp only [attempt, told, Declaration.report]
  cases checked : Declaration.check text with
  | error error => exact .failed (.declaration checked)
  | ok name =>
    refine .succeeded ?_ ?_
    · show Text.startsWith "Function '" ("Function '" ++ name ++ "' compiled successfully.") = true
      rw [List.append_assoc]
      exact Text.startsWith_append _ _
    · intro line failure
      cases failure with
      | declaration failed => simp [checked] at failed

theorem tokens_outcome : Outcome .tokens text (told (attempt .tokens text)) := by
  refine .succeeded ?_ nofun
  show Text.startsWith "Function Declaration: " (Token.trace text) = true
  unfold Token.trace
  rw [List.append_assoc, List.append_assoc]
  exact Text.startsWith_append _ _

theorem evaluate_outcome : Outcome .evaluate text (told (attempt .evaluate text)) := by
  simp only [attempt, evaluateCall]
  cases parsed : Call.parse text with
  | error error => exact .failed (.call parsed)
  | ok call =>
    cases evaluated : Evaluation.evaluate call.name call.arguments with
    | error error =>
      simp only [bind, Except.bind, evaluated]
      exact .failed (.evaluation parsed evaluated)
    | ok shown =>
      simp only [bind, Except.bind, evaluated]
      refine .succeeded (Text.startsWith_append _ shown) ?_
      intro line failure
      cases failure with
      | call failed => simp [parsed] at failed
      | evaluation again failed =>
        obtain rfl : call = _ := Except.ok.inj (parsed.symm.trans again)
        simp [evaluated] at failed

theorem listing_outcome : Outcome .listing text (told (attempt .listing text)) := by
  simp only [attempt, Code.ofCall]
  cases split : Call.splitParentheses? text with
  | none => exact .failed (.parentheses split)
  | some sides =>
    obtain ⟨header, inside⟩ := sides
    cases emitted : Code.emit (some header.trim) ((Call.splitCommas inside).map some) with
    | error refusal =>
      simp only [told, Code.generate, emitted]
      exact .failed (.listing split emitted)
    | ok code =>
      refine .succeeded (Code.generate_opens emitted) ?_
      intro line failure
      cases failure with
      | parentheses missing => simp [split] at missing
      | listing again failed =>
        obtain ⟨rfl, rfl⟩ : header = _ ∧ inside = _ := by simpa [split] using again
        simp [emitted] at failed

theorem tree_outcome : Outcome .tree text (told (attempt .tree text)) := by
  simp only [attempt]
  cases displayed : Expression.display text with
  | error error => exact .failed (.tree displayed)
  | ok shown =>
    refine .succeeded (Expression.display_root displayed) ?_
    intro line failure
    cases failure with
    | tree failed => simp [displayed] at failed

theorem attempt_outcome (operation : Operation) :
    Outcome operation text (told (operation.attempt text)) := by
  cases operation with
  | validate => exact validate_outcome text
  | tokens => exact tokens_outcome text
  | evaluate => exact evaluate_outcome text
  | listing => exact listing_outcome text
  | tree => exact tree_outcome text

end Outcomes

theorem Failure.marked {text line : Text} {operation : Operation}
    (failure : Failure text operation line) : Text.startsWith Error.mark line = true := by
  cases failure with
  | listing split emitted => exact Code.refusal_marked _
  | _ =>
    rw [Error.line]
    exact Text.startsWith_append Error.mark _

theorem opening_head (operation : Operation) (text : Text) :
    ∃ c, (operation.opening text).head? = some c ∧ c ≠ 'E' := by
  cases operation with
  | validate => exact ⟨'F', rfl, by decide⟩
  | tokens => exact ⟨'F', rfl, by decide⟩
  | evaluate => exact ⟨'R', rfl, by decide⟩
  | listing => exact ⟨'t', rfl, by decide⟩
  | tree =>
    obtain ⟨c, head, other⟩ := Expression.rootLabel_head text
    refine ⟨c, ?_, other⟩
    show (Expression.rootLabel text ++ ['\n']).head? = some c
    rw [List.head?_append, head, Option.some_or]

theorem not_marked_of_opens {operation : Operation} {text shown : Text}
    (opens : Text.startsWith (operation.opening text) shown = true) :
    ¬ Text.startsWith Error.mark shown = true := by
  intro marked
  obtain ⟨c, head, other⟩ := operation.opening_head text
  have first := Text.head_of_startsWith head opens
  have second : shown.head? = some 'E' := Text.head_of_startsWith rfl marked
  exact other (Option.some.inj (first.symm.trans second))

theorem blankMessage_marked (operation : Operation) :
    Text.startsWith Error.mark operation.blankMessage = true := by
  cases operation <;> exact Text.startsWith_append Error.mark _

theorem run_of_blank (operation : Operation) {source : Text} (blank : source.trim = []) :
    operation.run source = operation.blankMessage := by
  rw [run_eq, if_pos blank]

theorem run_of_nonblank (operation : Operation) {source : Text} (nonblank : source.trim ≠ []) :
    Outcome operation source.trim (operation.run source) := by
  rw [run_eq, if_neg nonblank]
  exact attempt_outcome source.trim operation

/-- A run starts like an error just when the source is blank or the operation fails on it, and
otherwise it starts in the way of the operation. -/
theorem run_outcome (operation : Operation) (source : Text) :
    (Text.startsWith Error.mark (operation.run source) = true ↔
        source.trim = [] ∨ ∃ line, Failure source.trim operation line) ∧
      (Text.startsWith (operation.opening source.trim) (operation.run source) = true ↔
        ¬ (source.trim = [] ∨ ∃ line, Failure source.trim operation line)) := by
  have apart : Text.startsWith (operation.opening source.trim) (operation.run source) = true →
      ¬ Text.startsWith Error.mark (operation.run source) = true := not_marked_of_opens
  by_cases blank : source.trim = []
  · have marked : Text.startsWith Error.mark (operation.run source) = true := by
      rw [run_of_blank operation blank]
      exact blankMessage_marked operation
    have fails : source.trim = [] ∨ ∃ line, Failure source.trim operation line := .inl blank
    exact ⟨iff_of_true marked fails,
      iff_of_false (fun opens => apart opens marked) (not_not_intro fails)⟩
  · cases run_of_nonblank operation blank with
    | failed failure =>
      have fails : source.trim = [] ∨ ∃ line, Failure source.trim operation line :=
        .inr ⟨_, failure⟩
      exact ⟨iff_of_true failure.marked fails,
        iff_of_false (fun opens => apart opens failure.marked) (not_not_intro fails)⟩
    | succeeded opens unfailing =>
      have succeeds : ¬ (source.trim = [] ∨ ∃ line, Failure source.trim operation line) := by
        rintro (empty | ⟨line, failure⟩)
        · exact blank empty
        · exact unfailing line failure
      exact ⟨iff_of_false (apart opens) succeeds, iff_of_true opens succeeds⟩

end FunctionCalculator.Operation
