import FunctionCalculator.Expression.Tree
import FunctionCalculator.Text.Basic
/-!
Reading sums of products. Operands are whatever stands between the two operators; both associate
to the left and the product binds tighter.
-/

set_option autoImplicit false

namespace FunctionCalculator.Expression

inductive Lexeme
  | operator (operator : Operator)
  | operand (label : Text)
  deriving DecidableEq, Repr

def Lexeme.text : Lexeme → Text
  | .operator sign => sign.label
  | .operand label => label

def inOperand (c : Char) : Bool := (Operator.ofSymbol? c).isNone

-- The operators and the trimmed runs between them. A run may be blank, but not empty.
def lexemes : Text → List Lexeme
  | [] => []
  | c :: rest =>
    match Operator.ofSymbol? c with
    | some operator => .operator operator :: lexemes rest
    | none =>
      .operand (Text.trim (c :: rest.takeWhile inOperand)) :: lexemes (rest.dropWhile inOperand)
termination_by text => text.length
decreasing_by
  · simp
  · exact Nat.lt_succ_of_le (List.dropWhile_suffix _).length_le

/-- Reads a tree from the front of a list of lexemes and leaves fewer of them. -/
structure Reader where
  read : List Lexeme → Except Error (Tree Operator × List Lexeme)
  shorter : ∀ {lexemes tree rest}, read lexemes = .ok (tree, rest) → rest.length < lexemes.length

namespace Reader

def extend (operator : Operator) (part : Reader) (tree : Tree Operator) :
    List Lexeme → Except Error (Tree Operator × List Lexeme)
  | [] => .ok (tree, [])
  | next :: following =>
    if next = .operator operator then
      match _taken : part.read following with
      | .ok (right, rest) => extend operator part (.node operator tree right) rest
      | .error error => .error error
    else .ok (tree, next :: following)
termination_by lexemes => lexemes.length
decreasing_by
  have := part.shorter _taken
  simp only [List.length_cons]
  omega

theorem extend_length {operator : Operator} {part : Reader} {tree whole : Tree Operator}
    {lexemes rest : List Lexeme}
    (extended : extend operator part tree lexemes = .ok (whole, rest)) :
    rest.length ≤ lexemes.length := by
  fun_induction extend operator part tree lexemes with
  | case1 => simp_all
  | case2 tree following right left read ih =>
    have := part.shorter read
    have := ih extended
    simp only [List.length_cons]
    omega
  | case3 => simp at extended
  | case4 =>
    simp only [Except.ok.injEq, Prod.mk.injEq] at extended
    exact extended.2 ▸ Nat.le_refl _

def chain (operator : Operator) (part : Reader) : Reader where
  read lexemes :=
    match part.read lexemes with
    | .ok (first, rest) => extend operator part first rest
    | .error error => .error error
  shorter := by
    intro lexemes tree rest chained
    split at chained
    · next first left read => exact Nat.lt_of_le_of_lt (extend_length chained) (part.shorter read)
    · simp at chained

end Reader

def factor : Reader where
  read
    | .operand label :: rest => .ok (.operand label, rest)
    | _ => .error .missingOperand
  shorter := by
    intro lexemes tree rest read
    split at read
    · simp only [Except.ok.injEq, Prod.mk.injEq] at read
      simp [read.2]
    · simp at read

def term : Reader := factor.chain .multiply

def expression : Reader := term.chain .add

def parse (text : Text) : Except Error (Tree Operator) :=
  match expression.read (lexemes text) with
  | .ok (tree, []) => .ok tree
  | .ok (_, lexeme :: _) => .error (.unexpected lexeme.text)
  | .error error => .error error

end FunctionCalculator.Expression
