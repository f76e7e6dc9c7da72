import FunctionCalculator.Proofs.Expression.Reference
import FunctionCalculator.Proofs.Text.Trim
/-!
The operands of an expression are its pieces, trimmed. Only a piece without any character is missed;
a piece of blank characters becomes an operand without a label.
-/

set_option autoImplicit false

namespace FunctionCalculator

theorem Text.trim_eq_nil_iff {text : Text} : text.trim = [] ↔ Blank text := by
  constructor
  · intro empty c member
    obtain ⟨before, after, left, right, whole⟩ := padded_trim text
    rw [whole, empty, List.append_nil, List.mem_append] at member
    exact member.elim (left c) (right c)
  · intro blank
    exact trim_append blank []

namespace Expression

def Tree.operands {ω : Type} : Tree ω → List Text
  | .operand label => [label]
  | .node _ left right => left.operands ++ right.operands

/-- A text in which blank characters are no operand: its tree has no empty label, and a blank piece
is a missing operand. -/
def RefusesBlank (text : Text) : Prop :=
  (∀ tree, parse text = .ok tree → [] ∉ tree.operands) ∧
    ((∃ piece ∈ rawPieces text, Text.Blank piece) → parse text = .error .missingOperand)

theorem operands_leftChain {operator : Operator} {trees : List (Tree Operator)}
    (nonempty : trees ≠ []) :
    (leftChain operator trees).operands = trees.flatMap Tree.operands := by
  obtain ⟨first, others, rfl⟩ := List.exists_cons_of_ne_nil nonempty
  simp only [leftChain, List.flatMap_cons]
  induction others generalizing first with
  | nil => simp
  | cons second others ih => simp [ih (.node operator first second), Tree.operands]

theorem operands_referenceTerm (part : Text) :
    (referenceTerm part).operands = (Text.pieces (· = '*') part).map Text.trim := by
  rw [referenceTerm, operands_leftChain (by simp [Text.pieces_ne_nil]), List.flatMap_map,
    List.map_eq_flatMap]
  rfl

theorem operands_reference (text : Text) :
    (reference text).operands = (rawPieces text).map Text.trim := by
  rw [reference, operands_leftChain (by simp [Text.pieces_ne_nil]), List.flatMap_map,
    funext operands_referenceTerm, rawPieces, Text.pieces_or, List.map_flatMap]

theorem operands_parse {text : Text} {tree : Tree Operator} (parsed : parse text = .ok tree) :
    tree.operands = (rawPieces text).map Text.trim := by
  obtain ⟨-, rfl⟩ := parse_eq_ok_iff.1 parsed
  exact operands_reference text

theorem unlabelled_mem_operands {text : Text} {tree : Tree Operator}
    (parsed : parse text = .ok tree) :
    [] ∈ tree.operands ↔ ∃ piece ∈ rawPieces text, Text.Blank piece := by
  simp only [operands_parse parsed, List.mem_map, Text.trim_eq_nil_iff]

theorem refusesBlank_of_missing {text : Text} (missing : [] ∈ rawPieces text) :
    RefusesBlank text := by
  have failed := parse_of_missing missing
  refine ⟨fun tree parsed => ?_, fun _ => failed⟩
  cases failed.symm.trans parsed

theorem refusesBlank_of_complete {text : Text} (complete : [] ∉ rawPieces text) :
    RefusesBlank text ↔ ∀ piece ∈ rawPieces text, ¬ Text.Blank piece := by
  have parsed := parse_of_complete complete
  constructor
  · intro refuses piece member blank
    have labelled := refuses.1 _ parsed
    exact labelled ((unlabelled_mem_operands parsed).2 ⟨piece, member, blank⟩)
  · intro visible
    have unblank : ¬ ∃ piece ∈ rawPieces text, Text.Blank piece := by simpa using visible
    constructor
    · intro tree parsed
      exact mt (unlabelled_mem_operands parsed).1 unblank
    · intro blank
      exact absurd blank unblank

/-- The operands of an accepted text are its trimmed pieces, so a blank piece is refused only where
a piece is empty as well. -/
theorem refusesBlank_iff (text : Text) :
    (∀ tree, parse text = .ok tree → tree.operands = (rawPieces text).map Text.trim) ∧
      (RefusesBlank text ↔ [] ∈ rawPieces text ∨ ∀ piece ∈ rawPieces text, ¬ Text.Blank piece) := by
  refine ⟨fun tree parsed => operands_parse parsed, ?_⟩
  by_cases missing : [] ∈ rawPieces text
  · exact iff_of_true (refusesBlank_of_missing missing) (.inl missing)
  · rw [or_iff_right missing]
    exact refusesBlank_of_complete missing

theorem blank_operand_accepted :
    parse "a+ " = .ok (.node .add (.operand "a") (.operand [])) ∧ ¬ RefusesBlank "a+ " := by
  have parsed : parse "a+ " = .ok (.node .add (.operand "a") (.operand [])) := by decide +kernel
  exact ⟨parsed, fun refuses => refuses.1 _ parsed (by decide)⟩

end Expression
end FunctionCalculator
