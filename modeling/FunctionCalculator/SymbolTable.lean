import FunctionCalculator.Builtin.Catalogue
import FunctionCalculator.Integer.Decimal
/-!
The table of all builtins.
-/

set_option autoImplicit false

namespace FunctionCalculator.SymbolTable

structure Row where
  title : Text
  parameters : Text
  kinds : Text
  arity : Nat
  scope : Text
  size : Nat
  result : Text
  deriving DecidableEq, Repr

def resultName : Kind → Text
  | .boolean => "bool"
  | kind => kind.name

def row (signature : Signature) : Except Kind Row :=
  signature.size.map fun size => {
    title := signature.title
    parameters := Text.join ", " signature.parameters
    kinds := Text.join ", " (signature.kinds.map Kind.name)
    arity := signature.arity
    scope := "Global"
    size := size
    result := resultName signature.result }

def rows (registry : Registry) : Except Kind (List Row) := registry.entries.mapM row

def header : Text :=
  "| Function Name         | Identifiers          | Data Type(s)               | Parameter Count  | Scope   | Size | Attributes (Return Type)  |"

def rule : Text :=
  "|-----------------------|----------------------|----------------------------|------------------|---------|------|---------------------------|"

def widths : List Nat := [21, 20, 26, 16, 7, 4, 24]

def Row.cells (row : Row) : List Text :=
  [row.title, row.parameters, row.kinds, Integer.naturalText row.arity, row.scope,
    Integer.naturalText row.size, row.result]

def Row.line (row : Row) : Text :=
  let cells := (widths.zip row.cells).map fun (width, cell) => Text.padRight width cell
  "| " ++ Text.join " | " cells ++ " |"

def text (rows : List Row) : Text :=
  (header :: rule :: rows.map Row.line).flatMap (· ++ ['\n'])

def standard : Text := text ((rows Registry.standard).toOption.getD [])

end FunctionCalculator.SymbolTable
