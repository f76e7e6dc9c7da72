import FunctionCalculator.Error
/-!
Expression trees and their outlines: one line for each node, the node first, then its left and its
right part, each two spaces further in.
-/

set_option autoImplicit false

namespace FunctionCalculator.Expression

inductive Operator
  | add
  | multiply
  deriving DecidableEq, Repr

namespace Operator

def all : List Operator := [.add, .multiply]

def symbol : Operator → Char
  | .add => '+'
  | .multiply => '*'

def label (operator : Operator) : Text := [operator.symbol]

def name : Operator → Text
  | .add => "Add"
  | .multiply => "Multiply"

def ofSymbol? (c : Char) : Option Operator := all.find? (·.symbol = c)

def ofLabel? (label : Text) : Option Operator := all.find? (·.label = label)

end Operator

inductive Tree (ω : Type)
  | operand (label : Text)
  | node (operator : ω) (left right : Tree ω)
  deriving DecidableEq, Repr

namespace Tree

def map {ω υ : Type} (f : ω → υ) : Tree ω → Tree υ
  | .operand label => .operand label
  | .node operator left right => .node (f operator) (left.map f) (right.map f)

def height {ω : Type} : Tree ω → Nat
  | .operand _ => 0
  | .node _ left right => max left.height right.height + 1

def outlineFrom (depth : Nat) : Tree Text → List (Text × Nat)
  | .operand label => [(label, depth)]
  | .node label left right =>
    (label, depth) :: (left.outlineFrom (depth + 1) ++ right.outlineFrom (depth + 1))

def maxHeight : Nat := 990

def outline (tree : Tree Text) : Except Fault (List (Text × Nat)) :=
  if tree.height ≤ maxHeight then .ok (tree.outlineFrom 0) else .error .nestedTooDeeply

end Tree

def outlineLine (entry : Text × Nat) : Text :=
  List.replicate (2 * entry.2) ' ' ++ entry.1 ++ ['\n']

def renderOutline (entries : List (Text × Nat)) : Text := entries.flatMap outlineLine

def render (tree : Tree Text) : Except Fault Text := tree.outline.map renderOutline

end FunctionCalculator.Expression
