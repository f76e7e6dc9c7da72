import FunctionCalculator.Expression.Display
import FunctionCalculator.Proofs.Expression.Canonical
/-!
The outline of a tree can be read in one way only. From the top down the depth of each line is
known, so that its label is what stands after that many steps, and an operator is told from an
operand by its label. Spaces at the start of a label do no harm.
-/

set_option autoImplicit false

namespace FunctionCalculator.Expression

def drawing (depth : Nat) (tree : Tree Operator) : Text :=
  renderOutline ((tree.map Operator.label).outlineFrom depth)

namespace Tree

/-- The trees whose operands take one line each and are not spelled like an operator. -/
def Legible : Tree Operator → Prop
  | .operand label =>
    '\n' ∉ label ∧ label ≠ Operator.add.label ∧ label ≠ Operator.multiply.label
  | .node _ left right => left.Legible ∧ right.Legible

instance decidableLegible : (tree : Tree Operator) → Decidable tree.Legible
  | .operand label => inferInstanceAs (Decidable ('\n' ∉ label ∧ label ≠ Operator.add.label ∧
      label ≠ Operator.multiply.label))
  | .node _ left right =>
    have := decidableLegible left
    have := decidableLegible right
    inferInstanceAs (Decidable (left.Legible ∧ right.Legible))

theorem height_map {ω υ : Type} (f : ω → υ) (tree : Tree ω) :
    (tree.map f).height = tree.height := by
  induction tree with
  | operand label => rfl
  | node operator left right leftIH rightIH => simp [map, height, leftIH, rightIH]

end Tree

theorem render_eq_drawing (tree : Tree Operator) : render (tree.map Operator.label) =
    if tree.height ≤ Tree.maxHeight then .ok (drawing 0 tree) else .error .nestedTooDeeply := by
  rw [render, Tree.outline, Tree.height_map]
  split <;> rfl

theorem render_ok {tree : Tree Operator} {shown : Text}
    (rendered : render (tree.map Operator.label) = .ok shown) : shown = drawing 0 tree := by
  rw [render_eq_drawing] at rendered
  split at rendered
  · exact (Except.ok.inj rendered).symm
  · cases rendered

section Lines

variable {depth : Nat}

theorem drawing_operand (depth : Nat) (label : Text) :
    drawing depth (.operand label) = outlineLine (label, depth) := by
  simp [drawing, Tree.map, Tree.outlineFrom, renderOutline]

theorem drawing_node (depth : Nat) (operator : Operator) (left right : Tree Operator) :
    drawing depth (.node operator left right) =
      outlineLine (operator.label, depth) ++
        (drawing (depth + 1) left ++ drawing (depth + 1) right) := by
  simp [drawing, Tree.map, Tree.outlineFrom, renderOutline]

theorem lineFeed_not_mem_label (operator : Operator) : '\n' ∉ operator.label := by
  cases operator <;> decide

theorem outlineLine_append_inj {label other rest after : Text} (whole : '\n' ∉ label)
    (otherWhole : '\n' ∉ other)
    (same : outlineLine (label, depth) ++ rest = outlineLine (other, depth) ++ after) :
    label = other ∧ rest = after := by
  have body : label ++ '\n' :: rest = other ++ '\n' :: after := by
    simpa [outlineLine] using same
  constructor
  · simpa only [Text.takeWhile_ne_append whole, Text.takeWhile_ne_append otherWhole] using
      congrArg (List.takeWhile (· ≠ '\n')) body
  · have tails := congrArg (List.dropWhile (· ≠ '\n')) body
    rw [Text.dropWhile_ne_append whole, Text.dropWhile_ne_append otherWhole] at tails
    exact (List.cons.inj tails).2

theorem Tree.Legible.label_ne {label : Text} (legible : (Tree.operand label).Legible)
    (operator : Operator) : label ≠ operator.label := by
  cases operator with
  | add => exact legible.2.1
  | multiply => exact legible.2.2

end Lines

theorem label_injective : Function.Injective Operator.label := by
  intro first second same
  cases first <;> cases second <;> simp_all [Operator.label, Operator.symbol]

/-- A text that begins with the lines of a tree determines the tree and what follows it. -/
theorem drawing_append_inj {first second : Tree Operator} (legible : first.Legible)
    (otherLegible : second.Legible) {depth : Nat} {rest after : Text}
    (same : drawing depth first ++ rest = drawing depth second ++ after) :
    first = second ∧ rest = after := by
  induction first generalizing second depth rest after with
  | operand label =>
    cases second with
    | operand other =>
      rw [drawing_operand, drawing_operand] at same
      obtain ⟨rfl, rest⟩ := outlineLine_append_inj legible.1 otherLegible.1 same
      exact ⟨rfl, rest⟩
    | node operator left right =>
      rw [drawing_operand, drawing_node, List.append_assoc] at same
      have labels := (outlineLine_append_inj legible.1 (lineFeed_not_mem_label operator) same).1
      exact absurd labels (legible.label_ne operator)
  | node operator left right leftIH rightIH =>
    cases second with
    | operand other =>
      rw [drawing_operand, drawing_node, List.append_assoc] at same
      have labels :=
        (outlineLine_append_inj (lineFeed_not_mem_label operator) otherLegible.1 same).1
      exact absurd labels.symm (otherLegible.label_ne operator)
    | node sign before behind =>
      simp only [drawing_node, List.append_assoc] at same
      obtain ⟨labels, parts⟩ :=
        outlineLine_append_inj (lineFeed_not_mem_label operator) (lineFeed_not_mem_label sign) same
      obtain ⟨rfl, others⟩ := leftIH legible.1 otherLegible.1 parts
      obtain ⟨rfl, rest⟩ := rightIH legible.2 otherLegible.2 others
      exact ⟨by rw [label_injective labels], rest⟩

section Parsed

variable {text : Text}

theorem legible_piece (whole : '\n' ∉ text) {piece : Text} (member : piece ∈ rawPieces text) :
    (Tree.operand piece.trim).Legible := by
  obtain ⟨-, noPlus, noTimes⟩ := canonical_operand member
  refine ⟨fun broken => ?_, fun plus => noPlus ?_, fun times => noTimes ?_⟩
  · exact whole (Text.mem_of_mem_pieces member (Text.mem_of_mem_trim broken))
  · exact plus ▸ List.mem_singleton_self _
  · exact times ▸ List.mem_singleton_self _

theorem legible_chain {operator : Operator} {trees : List (Tree Operator)} (nonempty : trees ≠ [])
    (each : ∀ tree ∈ trees, tree.Legible) : (leftChain operator trees).Legible :=
  leftChain_keeps nonempty each fun _ legible right member => ⟨legible, each right member⟩

theorem legible_of_parse (whole : '\n' ∉ text) {tree : Tree Operator}
    (parsed : parse text = .ok tree) :
    tree.Legible := by
  obtain ⟨-, rfl⟩ := parse_eq_ok_iff.1 parsed
  refine legible_chain (by simp [Text.pieces_ne_nil]) fun tree term => ?_
  obtain ⟨part, member, rfl⟩ := List.mem_map.1 term
  refine legible_chain (by simp [Text.pieces_ne_nil]) fun tree operand => ?_
  obtain ⟨piece, inside, rfl⟩ := List.mem_map.1 operand
  exact legible_piece whole (mem_rawPieces.2 ⟨part, member, inside⟩)

end Parsed

/-- Trees with one drawing are equal, and so are the trees of texts without line feeds. The drawing
is what is shown of a tree that is not nested too deeply. -/
theorem drawing_injective :
    (∀ tree : Tree Operator, render (tree.map Operator.label) =
        if tree.height ≤ Tree.maxHeight then .ok (drawing 0 tree) else .error .nestedTooDeeply) ∧
      (∀ first second : Tree Operator, first.Legible → second.Legible →
        drawing 0 first = drawing 0 second → first = second) ∧
      ∀ (text other : Text) (first second : Tree Operator), '\n' ∉ text → '\n' ∉ other →
        parse text = .ok first → parse other = .ok second →
        drawing 0 first = drawing 0 second → first = second := by
  have injective {first second : Tree Operator} (legible : first.Legible)
      (otherLegible : second.Legible) (same : drawing 0 first = drawing 0 second) :
      first = second := by
    have appended : drawing 0 first ++ [] = drawing 0 second ++ [] := by rw [same]
    exact (drawing_append_inj legible otherLegible appended).1
  refine ⟨render_eq_drawing, fun _ _ => injective, ?_⟩
  intro text other first second whole otherWhole parsed otherParsed
  exact injective (legible_of_parse whole parsed) (legible_of_parse otherWhole otherParsed)

-- The second tree has the labels of the first one in the other order, and one starts like a line
-- that is further in.
theorem drawing_injective_spaces :
    let first : Tree Operator := .node .add (.operand "  *") (.operand [])
    let second : Tree Operator := .node .add (.operand []) (.operand "  *")
    let text : Text := "a+ b *c"
    let other : Text := "\ta + b* c"
    (first.Legible ∧ second.Legible ∧ drawing 0 first ≠ drawing 0 second) ∧
      ∃ tree same, '\n' ∉ text ∧ '\n' ∉ other ∧ parse text = .ok tree ∧ parse other = .ok same ∧
        drawing 0 tree = drawing 0 same ∧ tree = same := by
  intro first second text other
  have legible : first.Legible := by decide
  have otherLegible : second.Legible := by decide
  refine ⟨⟨legible, otherLegible, fun same => ?_⟩, ?_⟩
  · exact absurd (drawing_injective.2.1 first second legible otherLegible same) (by decide)
  · have whole : '\n' ∉ text := by decide
    have otherWhole : '\n' ∉ other := by decide
    have parsed : parse text = parse other := by decide +kernel
    obtain ⟨tree, same⟩ : ∃ tree, parse other = .ok tree := ⟨_, parse_of_complete (by decide)⟩
    refine ⟨tree, tree, whole, otherWhole, parsed.trans same, same, rfl, ?_⟩
    exact drawing_injective.2.2 text other tree tree whole otherWhole (parsed.trans same) same rfl

end FunctionCalculator.Expression
