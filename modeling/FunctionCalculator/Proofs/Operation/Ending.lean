import FunctionCalculator.Proofs.Code.Hygiene
import FunctionCalculator.Proofs.Evaluation.Shown
import FunctionCalculator.Proofs.Expression.Drawing
import FunctionCalculator.Proofs.Operation.Outcome
import FunctionCalculator.Proofs.Text.Ending
/-!
How the text of an operation ends: whatever the source is, it is not empty and has at most one line
feed at its end. Each format is looked at by its last part.
-/

set_option autoImplicit false

namespace FunctionCalculator

open Text (Unended EndsOnce unended_toList)

section Errors

theorem Error.message_unended (error : Error) : Unended error.message := by
  cases error with
  | undefinedFunction name | unknownFunction name | unsupportedListing name =>
    exact (unended_toList (by decide)).append_left _
  | invalidCall gap => cases gap <;> exact (unended_toList (by decide)).append_left _
  | fault cause => cases cause <;> exact unended_toList (by decide)
  | _ => exact unended_toList (by decide)

theorem Error.line_unended (error : Error) : Unended error.line :=
  error.message_unended.append_left Error.mark

theorem Code.Refusal.line_endsOnce (refusal : Refusal) : EndsOnce refusal.line := by
  cases refusal with
  | unsupported name => exact (Error.unsupportedListing name).line_unended.endsOnce_append
  | _ => exact ((unended_toList (by decide)).append_left Error.mark).endsOnce_append

end Errors

section Tokens

theorem Token.label_unended (kind : TokenKind) : Unended kind.label := by
  cases kind <;> exact unended_toList (by decide)

theorem Token.traceLine_endsOnce (token : Token) : EndsOnce (traceLine token) :=
  ((label_unended token.kind).append_left _).endsOnce_append

theorem Token.trace_endsOnce {text : Text} (unended : Unended text) : EndsOnce (trace text) := by
  unfold trace
  by_cases empty : scan text = []
  · rw [empty, List.flatMap_nil, List.append_nil]
    exact (unended.append_left _).endsOnce_append
  · exact (Text.endsOnce_flatMap empty fun token _ => traceLine_endsOnce token).append_left _

end Tokens

section Listings

theorem Code.temporaryName_unended (index : Nat) : Unended (Term.temporaryName index) :=
  Text.unended_of_not_mem nofun
    (List.not_mem_cons_of_ne_of_not_mem (by decide) (Integer.lineFeed_not_mem_naturalText index))

theorem Code.emit_last {name : Option Text} {arguments : List (Option Text)}
    {code : List Instruction} (emitted : emit name arguments = .ok code) :
    ∃ front index, code = front ++ [⟨.result, .temporary index⟩] := by
  obtain ⟨texts, builtin, assigned⟩ := emit_ok emitted
  obtain ⟨news, -, rfl⟩ := assign_eq_mapIdx assigned
  exact ⟨_, _, rfl⟩

theorem Code.generate_endsOnce (name : Option Text) (arguments : List (Option Text)) :
    EndsOnce (generate name arguments) := by
  rw [generate]
  cases emitted : emit name arguments with
  | error refusal => exact refusal.line_endsOnce
  | ok code =>
    obtain ⟨front, index, rfl⟩ := emit_last emitted
    simp only [render, List.map_append, List.map_singleton, List.flatMap_append,
      List.flatMap_singleton]
    exact ((temporaryName_unended index).append_left _).endsOnce_append.append_left _

end Listings

namespace Expression

section Patterns

theorem pattern_parts : ∀ pattern ∈ patterns,
    Unended pattern.left ∧ ∀ right ∈ pattern.right, Unended right := by
  decide +kernel

theorem Pattern.shown_endsOnce {pattern : Pattern} (left : Unended pattern.left)
    (right : ∀ text ∈ pattern.right, Unended text) : EndsOnce pattern.shown := by
  unfold shown
  split
  · exact (left.append_left _).endsOnce_append
  · next text found => exact ((right text found).append_left _).endsOnce_append

end Patterns

section Trees

theorem outlineLine_endsOnce {label : Text} (trimmed : label.Trimmed) {depth : Nat}
    (inside : 0 < depth) : EndsOnce (outlineLine (label, depth)) := by
  refine Unended.endsOnce_append ?_
  by_cases blank : label = []
  · have spaces : List.replicate (2 * depth) ' ' ≠ [] := by
      rw [Ne, List.replicate_eq_nil_iff]
      omega
    rw [blank, List.append_nil]
    exact Text.unended_of_not_mem spaces (by simp [List.mem_replicate])
  · exact (trimmed.unended blank).append_left _

theorem Tree.Canonical.right {operator : Operator} {left right : Tree Operator}
    (canonical : (Tree.node operator left right).Canonical) : right.Canonical := by
  cases operator <;> exact canonical.2.1

-- The last line is that of the rightmost operand. This may be empty, but its line is further in
-- than the root's, so that there is a space on it.
theorem drawing_endsOnce {tree : Tree Operator} (canonical : tree.Canonical) {depth : Nat}
    (inside : 0 < depth) : EndsOnce (drawing depth tree) := by
  induction tree generalizing depth with
  | operand label =>
    rw [drawing_operand]
    exact outlineLine_endsOnce canonical.1 inside
  | node operator left right _ ih =>
    rw [drawing_node, ← List.append_assoc]
    exact (ih canonical.right (Nat.succ_pos depth)).append_left _

theorem drawing_node_endsOnce {operator : Operator} {left right : Tree Operator}
    (canonical : (Tree.node operator left right).Canonical) :
    EndsOnce (drawing 0 (.node operator left right)) := by
  rw [drawing_node, ← List.append_assoc]
  exact (drawing_endsOnce canonical.right Nat.one_pos).append_left _

theorem displayParsed_endsOnce {text shown : Text} (displayed : displayParsed text = .ok shown) :
    EndsOnce shown := by
  obtain ⟨left, right, parsed, rendered⟩ := displayParsed_ok displayed
  rw [render_ok rendered]
  exact drawing_node_endsOnce ((parse_eq_ok_iff.1 parsed).2 ▸ canonical_reference text)

theorem display_endsOnce {text shown : Text} (displayed : display text = .ok shown) :
    EndsOnce shown := by
  rw [display, pattern?] at displayed
  cases found : patterns.find? (·.text = text) with
  | some pattern =>
    obtain rfl : pattern.shown = shown := by simpa [found] using displayed
    obtain ⟨left, right⟩ := pattern_parts pattern (List.mem_of_find?_eq_some found)
    exact Pattern.shown_endsOnce left right
  | none =>
    rw [found] at displayed
    exact displayParsed_endsOnce displayed

end Trees

end Expression

namespace Operation

theorem blankMessage_unended (operation : Operation) : Unended operation.blankMessage := by
  cases operation <;> exact (unended_toList (by decide)).append_left _

theorem report_unended (text : Text) : Unended (Declaration.report text) := by
  unfold Declaration.report
  split
  · exact (unended_toList (by decide)).append_left _
  · next error _ => exact error.line_unended

theorem evaluateCall_unended {text shown : Text} (evaluated : evaluateCall text = .ok shown) :
    Unended shown := by
  unfold evaluateCall at evaluated
  obtain ⟨call, -, evaluated⟩ := Code.bind_ok evaluated
  obtain ⟨value, computed, evaluated⟩ := Code.bind_ok evaluated
  obtain rfl := Except.ok.inj evaluated
  have front : Unended "Result: " := unended_toList (by decide)
  exact front.append_right (Evaluation.lineFeed_not_mem_evaluate computed)

theorem attempt_endsOnce (operation : Operation) {text : Text} (unended : Unended text)
    {shown : Text} (attempted : operation.attempt text = .ok shown) : EndsOnce shown := by
  cases operation with
  | validate =>
    obtain rfl := Except.ok.inj attempted
    exact (report_unended text).endsOnce
  | tokens =>
    obtain rfl := Except.ok.inj attempted
    exact Token.trace_endsOnce unended
  | evaluate => exact (evaluateCall_unended attempted).endsOnce
  | listing =>
    simp only [attempt, Code.ofCall] at attempted
    split at attempted
    · cases attempted
    · obtain rfl := Except.ok.inj attempted
      exact Code.generate_endsOnce _ _
  | tree => exact Expression.display_endsOnce attempted

theorem run_endsOnce (operation : Operation) (source : Text) : EndsOnce (operation.run source) := by
  rw [run_eq]
  split
  · exact operation.blankMessage_unended.endsOnce
  · next nonblank =>
    have unended := (Text.trimmed_trim source).unended nonblank
    cases attempted : operation.attempt source.trim with
    | ok shown => exact operation.attempt_endsOnce unended attempted
    | error error => exact error.line_unended.endsOnce

end Operation
end FunctionCalculator
