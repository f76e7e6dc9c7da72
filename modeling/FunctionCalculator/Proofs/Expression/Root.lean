import FunctionCalculator.Expression.Display
import FunctionCalculator.Proofs.Expression.Reference
import FunctionCalculator.Proofs.Text.Lines
/-!
The first line of a tree that is shown: the root of the table's entry, or the operator that binds
least in the text.
-/

set_option autoImplicit false

namespace FunctionCalculator.Expression

def rootLabel (text : Text) : Text :=
  match patterns.find? (·.text = text) with
  | some pattern => pattern.root
  | none => if '+' ∈ text then Operator.add.label else Operator.multiply.label

theorem leftChain_root (operator : Operator) {trees : List (Tree Operator)}
    (several : 2 ≤ trees.length) :
    ∃ left right, leftChain operator trees = .node operator left right := by
  match trees, several with
  | first :: second :: others, _ =>
    rcases List.eq_nil_or_concat (second :: others) with empty | ⟨front, last, split⟩
    · simp at empty
    · refine ⟨front.foldl (.node operator) first, last, ?_⟩
      simp [leftChain, split]

theorem reference_of_plus {text : Text} (plus : '+' ∈ text) :
    ∃ left right, reference text = .node .add left right := by
  refine leftChain_root .add ?_
  rw [List.length_map]
  exact Text.length_pieces_of_cut plus (by simp)

theorem reference_of_times {text : Text} (noPlus : '+' ∉ text) (times : '*' ∈ text) :
    ∃ left right, reference text = .node .multiply left right := by
  have whole : Text.pieces (· = '+') text = [text] := by
    refine Text.pieces_of_uncut fun c member => ?_
    simpa using ne_of_mem_of_not_mem member noPlus
  have single : reference text = referenceTerm text := by simp [reference, whole, leftChain]
  rw [single]
  refine leftChain_root .multiply ?_
  rw [List.length_map]
  exact Text.length_pieces_of_cut times (by simp)

theorem parse_root {text : Text} {tree : Tree Operator} (signed : text.all inOperand = false)
    (parsed : parse text = .ok tree) :
    ∃ left right, tree = .node (if '+' ∈ text then .add else .multiply) left right := by
  obtain ⟨-, rfl⟩ := parse_eq_ok_iff.1 parsed
  by_cases plus : '+' ∈ text
  · simpa [plus] using reference_of_plus plus
  · have times : '*' ∈ text := by
      obtain ⟨c, member, sign⟩ := List.all_eq_false.1 signed
      rw [inOperand_iff] at sign
      by_contra noTimes
      exact sign ⟨ne_of_mem_of_not_mem member plus, ne_of_mem_of_not_mem member noTimes⟩
    simpa [plus] using reference_of_times plus times

theorem render_root {operator : Operator} {left right : Tree Operator} {shown : Text}
    (rendered : render ((Tree.node operator left right).map Operator.label) = .ok shown) :
    Text.startsWith (operator.label ++ ['\n']) shown = true := by
  rw [render, Tree.outline] at rendered
  split at rendered
  · obtain rfl := Except.ok.inj rendered
    exact Text.startsWith_append (operator.label ++ ['\n']) _
  · cases rendered

theorem shown_root (pattern : Pattern) :
    Text.startsWith (pattern.root ++ ['\n']) pattern.shown = true := by
  rw [Text.startsWith_iff, Pattern.shown]
  cases pattern.right with
  | none => exact ⟨"  " ++ pattern.left ++ ['\n'], by simp⟩
  | some right => exact ⟨"  / \\ \n " ++ pattern.left ++ "   " ++ right ++ ['\n'], by simp⟩

theorem displayParsed_ok {text shown : Text} (displayed : displayParsed text = .ok shown) :
    ∃ left right, parse text = .ok (.node (if '+' ∈ text then .add else .multiply) left right) ∧
      render ((Tree.node (if '+' ∈ text then .add else .multiply) left right).map Operator.label) =
        .ok shown := by
  unfold displayParsed at displayed
  split at displayed
  · cases displayed
  · next signed =>
    cases parsed : parse text with
    | error error => simp [parsed] at displayed
    | ok tree =>
      obtain ⟨left, right, rfl⟩ := parse_root (Bool.not_eq_true _ ▸ signed) parsed
      simp only [parsed] at displayed
      refine ⟨left, right, rfl, ?_⟩
      cases rendered : render ((Tree.node (if '+' ∈ text then .add else .multiply) left right).map
        Operator.label) with
      | error fault => simp [rendered, Except.mapError] at displayed
      | ok lines => simpa [rendered, Except.mapError] using displayed

theorem displayParsed_root {text shown : Text} (displayed : displayParsed text = .ok shown) :
    Text.startsWith ((if '+' ∈ text then Operator.add else .multiply).label ++ ['\n']) shown =
      true := by
  obtain ⟨left, right, -, rendered⟩ := displayParsed_ok displayed
  exact render_root rendered

theorem display_root {text shown : Text} (displayed : display text = .ok shown) :
    Text.startsWith (rootLabel text ++ ['\n']) shown = true := by
  rw [display, pattern?] at displayed
  rw [rootLabel]
  cases found : patterns.find? (·.text = text) with
  | some pattern =>
    obtain rfl : pattern.shown = shown := by simpa [found] using displayed
    exact shown_root pattern
  | none =>
    rw [found] at displayed
    have root := displayParsed_root displayed
    by_cases plus : '+' ∈ text <;> simpa [plus] using root

theorem pattern_head : ∀ pattern ∈ patterns, pattern.root.head?.any (· ≠ 'E') = true := by
  decide +kernel

theorem rootLabel_head (text : Text) : ∃ c, (rootLabel text).head? = some c ∧ c ≠ 'E' := by
  rw [rootLabel]
  cases found : patterns.find? (·.text = text) with
  | some pattern =>
    have head := pattern_head pattern (List.mem_of_find?_eq_some found)
    simpa [Option.any_eq_true] using head
  | none =>
    by_cases plus : '+' ∈ text
    · exact ⟨'+', by simp [plus, Operator.label, Operator.symbol], by decide⟩
    · exact ⟨'*', by simp [plus, Operator.label, Operator.symbol], by decide⟩

end FunctionCalculator.Expression
