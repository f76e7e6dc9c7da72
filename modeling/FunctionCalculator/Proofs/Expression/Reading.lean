import FunctionCalculator.Expression.Parser
/-!
What the readers of the descent do to the lexemes of a whole chain: they take all of it and nothing
of what comes after, or miss an operand.
-/

set_option autoImplicit false

namespace FunctionCalculator.Expression

def GoesOnWith (operators : List Operator) : List Lexeme → Prop
  | [] => True
  | .operator operator :: _ => operator ∈ operators
  | .operand _ :: _ => False

def separated (operator : Operator) : List (List Lexeme) → List Lexeme
  | [] => []
  | first :: others => first ++ others.flatMap (.operator operator :: ·)

theorem separated_cons (operator : Operator) (first : List Lexeme) {others : List (List Lexeme)}
    (nonempty : others ≠ []) :
    separated operator (first :: others) =
      first ++ .operator operator :: separated operator others := by
  cases others with
  | nil => exact absurd rfl nonempty
  | cons second others => simp [separated]

-- Trees taken together from the left. A list without any tree does not occur.
def leftChain (operator : Operator) : List (Tree Operator) → Tree Operator
  | [] => .operand []
  | first :: others => others.foldl (.node operator) first

def finished (rest : List Lexeme) :
    Option (Tree Operator) → Except Error (Tree Operator × List Lexeme)
  | some tree => .ok (tree, rest)
  | none => .error .missingOperand

@[simp] theorem finished_some (rest : List Lexeme) (tree : Tree Operator) :
    finished rest (some tree) = .ok (tree, rest) := rfl

@[simp] theorem finished_none (rest : List Lexeme) :
    finished rest none = .error .missingOperand := rfl

namespace Reader

def Reads (reader : Reader) (after : List Operator) (front : List Lexeme)
    (tree : Option (Tree Operator)) : Prop :=
  ∀ rest, GoesOnWith after rest → reader.read (front ++ rest) = finished rest tree

variable {α : Type} {operator : Operator} {after : List Operator} {part : Reader}
  {front : α → List Lexeme} {tree? : α → Option (Tree Operator)}

theorem extend_stops (tree : Tree Operator) {rest : List Lexeme} (new : operator ∉ after)
    (follows : GoesOnWith after rest) : extend operator part tree rest = .ok (tree, rest) := by
  cases rest with
  | nil => simp [extend]
  | cons next rest =>
    have other : next ≠ .operator operator := by
      rintro rfl
      exact new follows
    rw [extend, if_neg other]

theorem extend_step (tree : Tree Operator) {following : List Lexeme} :
    extend operator part tree (.operator operator :: following) =
      match part.read following with
      | .ok (right, rest) => extend operator part (.node operator tree right) rest
      | .error error => .error error := by
  rw [extend, if_pos rfl]
  cases part.read following <;> rfl

-- After a part of a chain comes the operator of the chain or what may follow the chain.
theorem goesOnWith_parts (front : α → List Lexeme) (items : List α) {rest : List Lexeme}
    (follows : GoesOnWith after rest) :
    GoesOnWith (operator :: after)
      (items.flatMap (fun item => .operator operator :: front item) ++ rest) := by
  cases items with
  | nil =>
    cases rest with
    | nil => trivial
    | cons next rest => cases next <;> simp_all [GoesOnWith]
  | cons item items => simp [GoesOnWith]

-- The next part is read up to an operator that the part itself does not take: the one of the chain
-- before a further part, and after the last part what follows the whole chain.
theorem extend_reads (new : operator ∉ after) (items : List α)
    (each : ∀ item ∈ items, part.Reads (operator :: after) (front item) (tree? item))
    (tree : Tree Operator) {rest : List Lexeme} (follows : GoesOnWith after rest) :
    extend operator part tree
        (items.flatMap (fun item => .operator operator :: front item) ++ rest) =
      finished rest ((items.mapM tree?).map (List.foldl (.node operator) tree)) := by
  induction items generalizing tree with
  | nil => simpa using extend_stops tree new follows
  | cons item items ih =>
    have taken := each item List.mem_cons_self _ (goesOnWith_parts front items follows)
    rw [List.flatMap_cons, List.append_assoc, List.cons_append, extend_step, taken]
    cases found : tree? item with
    | none => simp [found]
    | some right =>
      simp only [finished_some, List.mapM_cons, found]
      rw [ih (fun other member => each other (List.mem_cons_of_mem item member))]
      cases items.mapM tree? <;> simp

theorem chain_reads (new : operator ∉ after) {items : List α} (nonempty : items ≠ [])
    (each : ∀ item ∈ items, part.Reads (operator :: after) (front item) (tree? item)) :
    (part.chain operator).Reads after (separated operator (items.map front))
      ((items.mapM tree?).map (leftChain operator)) := by
  intro rest follows
  obtain ⟨item, items, rfl⟩ := List.exists_cons_of_ne_nil nonempty
  have taken := each item List.mem_cons_self _ (goesOnWith_parts front items follows)
  have others := extend_reads new items fun other member =>
    each other (List.mem_cons_of_mem item member)
  simp only [chain, List.map_cons, separated, List.flatMap_map, List.append_assoc, taken,
    List.mapM_cons]
  cases found : tree? item with
  | none => simp
  | some first =>
    simp only [finished_some]
    rw [others first follows]
    cases items.mapM tree? <;> simp [leftChain]

end Reader
end FunctionCalculator.Expression
