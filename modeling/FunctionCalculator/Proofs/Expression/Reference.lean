import FunctionCalculator.Proofs.Expression.Reading
import FunctionCalculator.Proofs.Text.Pieces
import Mathlib.Data.List.TakeWhile
/-!
The tree of an expression without any descent: the text is cut at every plus sign, each part at
every multiplication sign, and the trimmed pieces are folded from the left. The descent builds
exactly this tree, and it fails just when one of the pieces is empty.
-/

set_option autoImplicit false

namespace FunctionCalculator.Expression

def rawPieces (text : Text) : List Text := Text.pieces (fun c => c = '+' || c = '*') text

def referenceTerm (part : Text) : Tree Operator :=
  leftChain .multiply ((Text.pieces (· = '*') part).map fun piece => .operand piece.trim)

def reference (text : Text) : Tree Operator :=
  leftChain .add ((Text.pieces (· = '+') text).map referenceTerm)

theorem ofSymbol_eq_some {c : Char} {operator : Operator} :
    Operator.ofSymbol? c = some operator ↔ c = operator.symbol := by
  cases operator <;>
    simp [Operator.ofSymbol?, Operator.all, Operator.symbol, List.find?] <;>
    grind

theorem inOperand_iff {c : Char} : inOperand c = true ↔ c ≠ '+' ∧ c ≠ '*' := by
  simp only [inOperand, Operator.ofSymbol?, Operator.all, Operator.symbol, List.find?]
  grind

section Lexemes

def pieceLexemes (piece : Text) : List Lexeme := if piece = [] then [] else [.operand piece.trim]

def partLexemes (part : Text) : List Lexeme :=
  separated .multiply ((Text.pieces (· = '*') part).map pieceLexemes)

def sumLexemes (text : Text) : List Lexeme :=
  separated .add ((Text.pieces (· = '+') text).map partLexemes)

theorem partLexemes_times (part : Text) :
    partLexemes ('*' :: part) = .operator .multiply :: partLexemes part := by
  have nonempty := Text.pieces_ne_nil (· = '*') part
  rw [partLexemes, Text.pieces_cons_cut (by simp), List.map_cons, separated_cons _ _ (by simpa)]
  simp [pieceLexemes, partLexemes]

theorem sumLexemes_plus (text : Text) :
    sumLexemes ('+' :: text) = .operator .add :: sumLexemes text := by
  have nonempty := Text.pieces_ne_nil (· = '+') text
  rw [sumLexemes, Text.pieces_cons_cut (by simp), List.map_cons, separated_cons _ _ (by simpa)]
  simp [partLexemes, separated, pieceLexemes, Text.pieces, sumLexemes]

theorem sumLexemes_append (chunk : Text) (free : '+' ∉ chunk) (text : Text)
    (front : List Lexeme) (first : ∀ part others, Text.pieces (· = '+') text = part :: others →
      partLexemes (chunk ++ part) = front ++ partLexemes part) :
    sumLexemes (chunk ++ text) = front ++ sumLexemes text := by
  obtain ⟨part, others, split⟩ := Text.pieces_exists_cons (· = '+') text
  rw [sumLexemes, Text.pieces_append (Text.uncut_of_not_mem free), split]
  simp [sumLexemes, split, separated, first part others split]

theorem sumLexemes_times (text : Text) :
    sumLexemes ('*' :: text) = .operator .multiply :: sumLexemes text :=
  sumLexemes_append ['*'] (by simp) text [.operator .multiply] fun part _ _ =>
    partLexemes_times part

theorem partLexemes_chunk {chunk part : Text} (nonempty : chunk ≠ []) (free : '*' ∉ chunk)
    (stops : part.head? = none ∨ part.head? = some '*') :
    partLexemes (chunk ++ part) = .operand chunk.trim :: partLexemes part := by
  obtain ⟨others, split⟩ : ∃ others, Text.pieces (· = '*') part = [] :: others := by
    cases part with
    | nil => exact ⟨[], rfl⟩
    | cons c part =>
      obtain rfl : c = '*' := by simpa using stops
      exact ⟨_, Text.pieces_cons_cut (by simp) part⟩
  rw [partLexemes, Text.pieces_append (Text.uncut_of_not_mem free), split]
  simp [partLexemes, split, separated, pieceLexemes, nonempty]

-- A longest run without operators is one operand of the first part.
theorem sumLexemes_chunk {chunk : Text} (nonempty : chunk ≠ [])
    (free : ∀ c ∈ chunk, inOperand c = true) (text : Text)
    (stops : ∀ c, text.head? = some c → inOperand c = false) :
    sumLexemes (chunk ++ text) = .operand chunk.trim :: sumLexemes text := by
  have noPlus : '+' ∉ chunk := fun member => absurd (free _ member) (by decide)
  have noTimes : '*' ∉ chunk := fun member => absurd (free _ member) (by decide)
  refine sumLexemes_append chunk noPlus text [.operand chunk.trim] ?_
  intro part others split
  refine partLexemes_chunk nonempty noTimes ?_
  cases text with
  | nil => simp_all [Text.pieces]
  | cons c text =>
    have sign : c = '+' ∨ c = '*' := by
      have := stops c rfl
      rw [← Bool.not_eq_true, inOperand_iff] at this
      grind
    obtain ⟨first, rest, tail⟩ := Text.pieces_exists_cons (· = '+') text
    rw [Text.pieces, tail] at split
    rcases sign with rfl | rfl
    · left
      simp_all
    · right
      simp only [List.modifyHead_cons, Char.reduceEq, decide_false, Bool.false_eq_true, if_false,
        List.cons.injEq] at split
      simp [← split.1]

theorem lexemes_eq_sumLexemes (text : Text) : lexemes text = sumLexemes text := by
  fun_induction lexemes text with
  | case1 => rfl
  | case2 c rest operator sign ih =>
    rw [ih]
    obtain rfl := ofSymbol_eq_some.1 sign
    cases operator with
    | add => exact (sumLexemes_plus rest).symm
    | multiply => exact (sumLexemes_times rest).symm
  | case3 c rest unsigned ih =>
    have starts : inOperand c = true := by simp [inOperand, unsigned]
    have run : ∀ d ∈ c :: rest.takeWhile inOperand, inOperand d = true := by
      intro d member
      rcases List.mem_cons.1 member with rfl | member
      · exact starts
      · exact List.mem_takeWhile_imp member
    have stops : ∀ d, (rest.dropWhile inOperand).head? = some d → inOperand d = false := by
      intro d first
      have := List.head?_dropWhile_not inOperand rest
      rwa [first] at this
    have chunk := sumLexemes_chunk (List.cons_ne_nil _ _) run _ stops
    rw [List.cons_append, List.takeWhile_append_dropWhile] at chunk
    rw [ih, chunk]

end Lexemes

section Trees

def operandTree? (piece : Text) : Option (Tree Operator) :=
  if piece = [] then none else some (.operand piece.trim)

def partTree? (part : Text) : Option (Tree Operator) :=
  ((Text.pieces (· = '*') part).mapM operandTree?).map (leftChain .multiply)

def sumTree? (text : Text) : Option (Tree Operator) :=
  ((Text.pieces (· = '+') text).mapM partTree?).map (leftChain .add)

theorem factor_reads (piece : Text) :
    factor.Reads [.multiply, .add] (pieceLexemes piece) (operandTree? piece) := by
  intro rest follows
  by_cases empty : piece = []
  · subst empty
    match rest, follows with
    | [], _ => rfl
    | .operator _ :: _, _ => rfl
  · simp [pieceLexemes, operandTree?, empty, factor]

theorem term_reads (part : Text) : term.Reads [.add] (partLexemes part) (partTree? part) :=
  Reader.chain_reads (by decide) (Text.pieces_ne_nil _ part) fun piece _ => factor_reads piece

theorem expression_reads (text : Text) :
    expression.Reads [] (sumLexemes text) (sumTree? text) :=
  Reader.chain_reads (by decide) (Text.pieces_ne_nil _ text) fun part _ => term_reads part

theorem mapM_unless {α β : Type} (missing : α → Prop) [DecidablePred missing] (value : α → β)
    (items : List α) :
    items.mapM (fun item => if missing item then none else some (value item)) =
      if ∃ item ∈ items, missing item then none else some (items.map value) := by
  induction items with
  | nil => simp
  | cons item items ih =>
    rw [List.mapM_cons, ih]
    by_cases first : missing item
    · simp [first]
    · by_cases other : ∃ item ∈ items, missing item <;> simp [first, other]

theorem partTree_eq (part : Text) :
    partTree? part =
      if [] ∈ Text.pieces (· = '*') part then none else some (referenceTerm part) := by
  unfold partTree? operandTree?
  rw [mapM_unless]
  by_cases missing : [] ∈ Text.pieces (· = '*') part <;> simp [missing, referenceTerm]

theorem mem_rawPieces {piece text : Text} :
    piece ∈ rawPieces text ↔
      ∃ part ∈ Text.pieces (· = '+') text, piece ∈ Text.pieces (· = '*') part := by
  rw [rawPieces, Text.pieces_or, List.mem_flatMap]

theorem sumTree_eq (text : Text) :
    sumTree? text = if [] ∈ rawPieces text then none else some (reference text) := by
  rw [sumTree?, funext partTree_eq, mapM_unless]
  simp only [mem_rawPieces]
  split <;> simp [reference]

theorem read_lexemes (text : Text) :
    expression.read (lexemes text) =
      finished [] (if [] ∈ rawPieces text then none else some (reference text)) := by
  have read := expression_reads text [] trivial
  rwa [List.append_nil, ← lexemes_eq_sumLexemes, sumTree_eq] at read

theorem parse_of_missing {text : Text} (missing : [] ∈ rawPieces text) :
    parse text = .error .missingOperand := by
  simp [parse, read_lexemes, missing]

theorem parse_of_complete {text : Text} (complete : [] ∉ rawPieces text) :
    parse text = .ok (reference text) := by
  simp [parse, read_lexemes, complete]

theorem parse_eq_ok_iff {text : Text} {tree : Tree Operator} :
    parse text = .ok tree ↔ [] ∉ rawPieces text ∧ tree = reference text := by
  by_cases missing : [] ∈ rawPieces text
  · simp [parse_of_missing missing, missing]
  · simp [parse_of_complete missing, missing, eq_comm]

end Trees

/-- The descent takes all lexemes and builds the reference tree, unless a piece is empty; then an
operand is missing, and no other error is met. -/
theorem parse_eq_reference (text : Text) :
    parse text = (if [] ∈ rawPieces text then .error .missingOperand else .ok (reference text)) ∧
      expression.read (lexemes text) =
        (if [] ∈ rawPieces text then .error .missingOperand else .ok (reference text, [])) ∧
      Error.missingOperand.label? = some "InvalidExpression" ∧
      Error.missingOperand.detail = "missing operand" := by
  refine ⟨?_, ?_, rfl, rfl⟩
  · split
    · next missing => exact parse_of_missing missing
    · next complete => exact parse_of_complete complete
  · rw [read_lexemes]
    split <;> simp

example : parse "a+b*c" =
    .ok (.node .add (.operand "a") (.node .multiply (.operand "b") (.operand "c"))) :=
  parse_of_complete (by decide)

end FunctionCalculator.Expression
