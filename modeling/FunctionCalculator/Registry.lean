import FunctionCalculator.Kind
import FunctionCalculator.Text.Case
/-!
Signatures of functions, and registries: lists of signatures under distinct names in lower case. A
registry is built from rows, and a name is looked up in it in any case.
-/

set_option autoImplicit false

namespace FunctionCalculator

structure Signature where
  name : Text
  arity : Nat
  kinds : List Kind
  result : Kind
  title : Text
  parameters : List Text
  deriving DecidableEq, Repr

def Signature.size (signature : Signature) : Except Kind Nat :=
  signature.kinds.foldlM (fun sum kind =>
    match kind.size? with
    | some bytes => .ok (sum + bytes)
    | none => .error kind) 0

structure Registry where
  entries : List Signature
  deriving DecidableEq, Repr

namespace Registry

structure Row where
  name : Text
  title : Text
  parameters : List Text
  kinds : List Kind
  result : Kind
  deriving DecidableEq, Repr

def Row.signature (row : Row) : Signature :=
  ⟨row.name, row.kinds.length, row.kinds, row.result, row.title, row.parameters⟩

def empty : Registry := ⟨[]⟩

def holds (registry : Registry) (name : Text) : Bool := registry.entries.any (·.name = name)

def insert (registry : Registry) (row : Row) : Except Text Registry :=
  if registry.holds row.name ∨ row.name ≠ row.name.lower then .error row.name
  else .ok ⟨registry.entries ++ [row.signature]⟩

def refusal (name : Text) : Text := "bad registry entry '" ++ name ++ "'"

def build (rows : List Row) : Except Text Registry := rows.foldlM insert empty

def lookup (registry : Registry) (name : Text) : Option Signature :=
  registry.entries.find? (·.name = name.lower)

end Registry
end FunctionCalculator
