import FunctionCalculator.Proofs.Expression.Reference
import FunctionCalculator.Proofs.Text.Fragments
import FunctionCalculator.Proofs.Text.Trim
/-!
Reading an expression and writing its tree in order undo each other: reading gives canonical trees
that hold the pieces and the operators of the text in their order, and a canonical tree is read back
from its text with blank characters around the operands.
-/

set_option autoImplicit false

namespace FunctionCalculator.Expression

namespace Tree

def inorder : Tree Operator → List Lexeme
  | .operand label => [.operand label]
  | .node operator left right => left.inorder ++ .operator operator :: right.inorder

def IsOperand {ω : Type} : Tree ω → Prop
  | .operand _ => True
  | .node .. => False

def IsNode {ω : Type} (operator : ω) : Tree ω → Prop
  | .operand _ => False
  | .node root _ _ => root = operator

/-- The trees in which products bind tighter than sums and both are taken from the left. -/
def Canonical : Tree Operator → Prop
  | .operand label => Text.Trimmed label ∧ '+' ∉ label ∧ '*' ∉ label
  | .node .add left right => left.Canonical ∧ right.Canonical ∧ ¬ right.IsNode .add
  | .node .multiply left right =>
    left.Canonical ∧ right.Canonical ∧ ¬ left.IsNode .add ∧ right.IsOperand

instance {ω : Type} : DecidablePred (IsOperand (ω := ω))
  | .operand _ => isTrue trivial
  | .node .. => isFalse id

instance {ω : Type} [DecidableEq ω] (operator : ω) : DecidablePred (IsNode operator)
  | .operand _ => isFalse id
  | .node root _ _ => inferInstanceAs (Decidable (root = operator))

instance decidableCanonical : (tree : Tree Operator) → Decidable tree.Canonical
  | .operand label => inferInstanceAs (Decidable (Text.Trimmed label ∧ '+' ∉ label ∧ '*' ∉ label))
  | .node .add left right =>
    have := decidableCanonical left
    have := decidableCanonical right
    inferInstanceAs (Decidable (left.Canonical ∧ right.Canonical ∧ ¬ right.IsNode .add))
  | .node .multiply left right =>
    have := decidableCanonical left
    have := decidableCanonical right
    inferInstanceAs (Decidable (left.Canonical ∧ right.Canonical ∧ ¬ left.IsNode .add ∧
      right.IsOperand))

/-- The texts of a tree: its lexemes in order, with any blank characters around the operands. -/
inductive Written : Tree Operator → Text → Prop
  | operand {label text : Text} (padded : Text.Padded label text) : Written (.operand label) text
  | node {operator : Operator} {left right : Tree Operator} {before after : Text}
    (first : Written left before) (second : Written right after) :
    Written (.node operator left right) (before ++ operator.symbol :: after)

end Tree

def isSign (c : Char) : Bool := c = '+' || c = '*'

def Lexeme.ofFragment : Text → Lexeme
  | ['+'] => .operator .add
  | ['*'] => .operator .multiply
  | piece => .operand piece.trim

def sourceSequence (text : Text) : List Lexeme :=
  (Text.fragments isSign text).map Lexeme.ofFragment

section Chains

variable {operator : Operator} {trees : List (Tree Operator)}

theorem leftChain_concat (operator : Operator) (nonempty : trees ≠ []) (last : Tree Operator) :
    leftChain operator (trees ++ [last]) = .node operator (leftChain operator trees) last := by
  obtain ⟨first, others, rfl⟩ := List.exists_cons_of_ne_nil nonempty
  simp [leftChain]

theorem inorder_leftChain (nonempty : trees ≠ []) :
    (leftChain operator trees).inorder = separated operator (trees.map Tree.inorder) := by
  obtain ⟨first, others, rfl⟩ := List.exists_cons_of_ne_nil nonempty
  simp only [leftChain, List.map_cons, separated, List.flatMap_map]
  induction others generalizing first with
  | nil => simp
  | cons second others ih => simp [ih (.node operator first second) (by simp), Tree.inorder]

theorem leftChain_keeps {P : Tree Operator → Prop} (nonempty : trees ≠ [])
    (each : ∀ tree ∈ trees, P tree)
    (step : ∀ left, P left → ∀ right ∈ trees, P (.node operator left right)) :
    P (leftChain operator trees) := by
  obtain ⟨first, others, rfl⟩ := List.exists_cons_of_ne_nil nonempty
  refine List.foldlRecOn others (.node operator) (each first List.mem_cons_self) ?_
  intro left kept right member
  exact step left kept right (List.mem_cons_of_mem first member)

theorem canonical_product (nonempty : trees ≠ [])
    (each : ∀ tree ∈ trees, tree.Canonical ∧ tree.IsOperand) :
    (leftChain .multiply trees).Canonical ∧ ¬ (leftChain .multiply trees).IsNode .add := by
  refine leftChain_keeps (P := fun tree => tree.Canonical ∧ ¬ tree.IsNode .add) nonempty ?_ ?_
  · intro tree member
    obtain ⟨canonical, operand⟩ := each tree member
    cases tree with
    | operand label => exact ⟨canonical, id⟩
    | node => exact operand.elim
  · rintro left ⟨canonical, noSum⟩ right member
    exact ⟨⟨canonical, (each right member).1, noSum, (each right member).2⟩, nofun⟩

theorem canonical_sum (nonempty : trees ≠ [])
    (each : ∀ tree ∈ trees, tree.Canonical ∧ ¬ tree.IsNode .add) :
    (leftChain .add trees).Canonical := by
  refine leftChain_keeps nonempty (fun tree member => (each tree member).1) ?_
  intro left canonical right member
  exact ⟨canonical, each right member⟩

end Chains

section Parsed

variable {text : Text}

theorem canonical_operand {piece : Text} (member : piece ∈ rawPieces text) :
    (Tree.operand piece.trim).Canonical := by
  have uncut := Text.uncut_of_mem_pieces member
  refine ⟨Text.trimmed_trim piece, fun sign => ?_, fun sign => ?_⟩
  · simpa using uncut _ (Text.mem_of_mem_trim sign)
  · simpa using uncut _ (Text.mem_of_mem_trim sign)

theorem canonical_reference (text : Text) : (reference text).Canonical := by
  refine canonical_sum (by simp [Text.pieces_ne_nil]) fun tree term => ?_
  obtain ⟨part, member, rfl⟩ := List.mem_map.1 term
  refine canonical_product (by simp [Text.pieces_ne_nil]) fun tree operand => ?_
  obtain ⟨piece, inside, rfl⟩ := List.mem_map.1 operand
  exact ⟨canonical_operand (mem_rawPieces.2 ⟨part, member, inside⟩), trivial⟩

theorem inorder_reference (complete : [] ∉ rawPieces text) :
    (reference text).inorder = lexemes text := by
  have piece : ∀ piece ∈ rawPieces text,
      (Tree.operand piece.trim).inorder = pieceLexemes piece := by
    intro piece member
    have nonempty : piece ≠ [] := ne_of_mem_of_not_mem member complete
    simp [Tree.inorder, pieceLexemes, nonempty]
  have part : ∀ part ∈ Text.pieces (· = '+') text,
      (referenceTerm part).inorder = partLexemes part := by
    intro part member
    rw [referenceTerm, inorder_leftChain (by simp [Text.pieces_ne_nil]), List.map_map, partLexemes]
    congr 1
    exact List.map_congr_left fun inner inside =>
      piece inner (mem_rawPieces.2 ⟨part, member, inside⟩)
  rw [reference, inorder_leftChain (by simp [Text.pieces_ne_nil]), List.map_map,
    lexemes_eq_sumLexemes, sumLexemes]
  congr 1
  exact List.map_congr_left part

theorem ofFragment_sign (operator : Operator) :
    Lexeme.ofFragment [operator.symbol] = .operator operator := by
  cases operator <;> rfl

theorem isSign_eq (c : Char) : isSign c = !inOperand c := by
  rw [Bool.eq_iff_iff, Bool.not_eq_true', ← Bool.not_eq_true, inOperand_iff]
  simp only [isSign, Bool.or_eq_true, decide_eq_true_eq]
  grind

theorem ofFragment_operand {piece : Text} (free : ∀ c ∈ piece, isSign c = false) :
    Lexeme.ofFragment piece = .operand piece.trim := by
  unfold Lexeme.ofFragment
  split
  · exact absurd (free '+' (by simp)) (by decide)
  · exact absurd (free '*' (by simp)) (by decide)
  · rfl

theorem lexemes_eq_fragments (text : Text) :
    lexemes text = ((Text.fragments isSign text).filter (· ≠ [])).map Lexeme.ofFragment := by
  fun_induction lexemes text with
  | case1 => rfl
  | case2 c rest operator sign ih =>
    obtain rfl := ofSymbol_eq_some.1 sign
    have cut : isSign operator.symbol = true := by cases operator <;> rfl
    simp [Text.fragments_cons_cut cut, ofFragment_sign, ih]
  | case3 c rest unsigned ih =>
    have starts : isSign c = false := by simp [isSign_eq, inOperand, unsigned]
    have same : inOperand = (!isSign ·) := by
      funext d
      simp [isSign_eq]
    obtain ⟨others, run, whole, after⟩ := Text.fragments_run starts rest
    rw [ih, same, whole, after]
    simp [ofFragment_operand run]

theorem sourceSequence_eq (complete : [] ∉ rawPieces text) :
    sourceSequence text = lexemes text := by
  have nonempty : ∀ fragment ∈ Text.fragments isSign text, fragment ≠ [] := by
    rintro fragment member rfl
    rcases Text.mem_fragments member with piece | ⟨c, sign⟩
    · exact complete piece
    · cases sign
  rw [lexemes_eq_fragments, List.filter_eq_self.2 (by simpa using nonempty), sourceSequence]

end Parsed

section Written

variable {tree : Tree Operator} {text : Text}

theorem written_free {label : Text} (padded : Text.Padded label text)
    (canonical : (Tree.operand label).Canonical) : '+' ∉ text ∧ '*' ∉ text := by
  obtain ⟨-, noPlus, noTimes⟩ := canonical
  exact ⟨mt (padded.mem_iff (by decide)).1 noPlus, mt (padded.mem_iff (by decide)).1 noTimes⟩

-- A product is read by cutting at the last multiplication sign, since its right side has none.
theorem referenceTerm_written (written : tree.Written text) (canonical : tree.Canonical)
    (noSum : ¬ tree.IsNode .add) : '+' ∉ text ∧ referenceTerm text = tree := by
  induction written with
  | operand padded =>
    obtain ⟨noPlus, noTimes⟩ := written_free padded canonical
    refine ⟨noPlus, ?_⟩
    rw [referenceTerm, Text.pieces_of_not_mem noTimes]
    exact congrArg Tree.operand (padded.trim_of_trimmed canonical.1)
  | @node operator left right before after first second leftRead rightRead =>
    cases operator with
    | add => exact absurd rfl noSum
    | multiply =>
      obtain ⟨leftCanonical, rightCanonical, leftNoSum, operand⟩ := canonical
      obtain ⟨noPlus, leftTerm⟩ := leftRead leftCanonical leftNoSum
      cases second with
      | node => exact operand.elim
      | operand padded =>
        obtain ⟨afterNoPlus, noTimes⟩ := written_free padded rightCanonical
        refine ⟨by simp [Operator.symbol, noPlus, afterNoPlus], ?_⟩
        rw [referenceTerm, Operator.symbol, Text.pieces_append_cons (by simp),
          Text.pieces_of_not_mem noTimes, List.map_append, List.map_singleton,
          leftChain_concat .multiply (by simp [Text.pieces_ne_nil]), ← referenceTerm, leftTerm,
          padded.trim_of_trimmed rightCanonical.1]

theorem reference_written (written : tree.Written text) (canonical : tree.Canonical) :
    reference text = tree := by
  have single {text : Text} {tree : Tree Operator} (written : tree.Written text)
      (canonical : tree.Canonical) (noSum : ¬ tree.IsNode .add) : reference text = tree := by
    obtain ⟨noPlus, term⟩ := referenceTerm_written written canonical noSum
    rw [reference, Text.pieces_of_not_mem noPlus]
    exact term
  induction written with
  | operand padded => exact single (.operand padded) canonical id
  | @node operator left right before after first second leftRead rightRead =>
    cases operator with
    | multiply => exact single (.node first second) canonical (by simp [Tree.IsNode])
    | add =>
      obtain ⟨leftCanonical, rightCanonical, noSum⟩ := canonical
      obtain ⟨noPlus, term⟩ := referenceTerm_written second rightCanonical noSum
      rw [reference, Operator.symbol, Text.pieces_append_cons (by simp),
        Text.pieces_of_not_mem noPlus, List.map_append, List.map_singleton,
        leftChain_concat .add (by simp [Text.pieces_ne_nil]), ← reference, leftRead leftCanonical,
        term]

theorem written_complete (written : tree.Written text) (canonical : tree.Canonical)
    (labelled : .operand [] ∉ tree.inorder) : [] ∉ rawPieces text := by
  induction written with
  | @operand label text padded =>
    obtain ⟨noPlus, noTimes⟩ := written_free padded canonical
    have single : rawPieces text = [text] := by
      refine Text.pieces_of_uncut fun c member => ?_
      simp [ne_of_mem_of_not_mem member noPlus, ne_of_mem_of_not_mem member noTimes]
    obtain ⟨before, after, -, -, rfl⟩ := padded
    simp_all [Tree.inorder]
  | @node operator left right before after first second leftRead rightRead =>
    have canonicals : left.Canonical ∧ right.Canonical := by
      cases operator with
      | add => exact ⟨canonical.1, canonical.2.1⟩
      | multiply => exact ⟨canonical.1, canonical.2.1⟩
    have split :
        rawPieces (before ++ operator.symbol :: after) = rawPieces before ++ rawPieces after :=
      Text.pieces_append_cons (by cases operator <;> rfl) before after
    simp only [Tree.inorder, List.mem_append, List.mem_cons, reduceCtorEq, false_or, not_or]
      at labelled
    rw [split, List.mem_append, not_or]
    exact ⟨leftRead canonicals.1 labelled.1, rightRead canonicals.2 labelled.2⟩

end Written

/-- The tree of an accepted text is canonical and holds its trimmed pieces and its operators in
order. A canonical tree with no empty operand is read back from each of its texts. -/
theorem parse_inorder_inverse :
    (∀ (text : Text) (tree : Tree Operator), parse text = .ok tree →
        tree.Canonical ∧ tree.inorder = sourceSequence text) ∧
      ∀ (tree : Tree Operator) (text : Text), tree.Canonical → .operand [] ∉ tree.inorder →
        tree.Written text → parse text = .ok tree := by
  constructor
  · intro text tree parsed
    by_cases missing : [] ∈ rawPieces text
    · simp [parse_of_missing missing] at parsed
    · obtain rfl := Except.ok.inj ((parse_of_complete missing).symm.trans parsed)
      exact ⟨canonical_reference text,
        (inorder_reference missing).trans (sourceSequence_eq missing).symm⟩
  · intro tree text canonical labelled written
    rw [parse_of_complete (written_complete written canonical labelled),
      reference_written written canonical]

theorem parse_inorder_inverse_blanks :
    let text : Text := "a *b" ++ '+' :: "\tc "
    let tree : Tree Operator :=
      .node .add (.node .multiply (.operand "a") (.operand "b")) (.operand "c")
    (parse text = .ok tree ∧ tree.Canonical ∧ tree.inorder = sourceSequence text) ∧
      .operand [] ∉ tree.inorder ∧ tree.Written text := by
  intro text tree
  have parsed : parse text = .ok tree := by decide +kernel
  have canonical : tree.Canonical := by decide
  have labelled : .operand [] ∉ tree.inorder := by decide
  have product :
      Tree.Written (.node .multiply (.operand "a") (.operand "b")) ("a " ++ '*' :: "b") :=
    .node (.operand ⟨[], " ", by decide, by decide, rfl⟩) (.operand (.refl _))
  have written : tree.Written text :=
    .node product (.operand ⟨"\t", " ", by decide, by decide, rfl⟩)
  exact ⟨⟨parse_inorder_inverse.2 tree text canonical labelled written,
    parse_inorder_inverse.1 text tree parsed⟩, labelled, written⟩

end FunctionCalculator.Expression
