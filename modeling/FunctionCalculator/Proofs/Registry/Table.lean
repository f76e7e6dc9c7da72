import FunctionCalculator.SymbolTable
/-!
The symbol table, line by line: the headings, a rule, and one line for each signature, in the order
of the registry. Every line is cells between bars, filled up with blanks to the width of their
column.
-/

set_option autoImplicit false

namespace FunctionCalculator.SymbolTable

def column (width : Nat) (cell : Text) : Text :=
  "| " ++ cell ++ List.replicate (width - cell.length) ' ' ++ [' ']

def tableLine (cells : List (Nat × Text)) : Text :=
  cells.flatMap (fun cell => column cell.1 cell.2) ++ ['|']

-- The last heading stands in a column that is one wider than that of its entries.
def headings : Text := tableLine [
  (21, "Function Name"), (20, "Identifiers"), (26, "Data Type(s)"), (16, "Parameter Count"),
  (7, "Scope"), (4, "Size"), (25, "Attributes (Return Type)")]

def dashes : Text :=
  [21, 20, 26, 16, 7, 4, 25].flatMap (fun width => '|' :: List.replicate (width + 2) '-') ++ ['|']

-- The bytes of a parameter; the kinds that only a result can have count for nothing.
def bytes : Kind → Nat
  | .int => 4
  | .double | .intArray => 8
  | .boolean | .other _ => 0

def totalBytes (kinds : List Kind) : Nat := kinds.foldl (fun sum kind => sum + bytes kind) 0

def entryLine (signature : Signature) : Text := tableLine [
  (21, signature.title),
  (20, List.intercalate ", ".toList signature.parameters),
  (26, List.intercalate ", ".toList (signature.kinds.map Kind.name)),
  (16, Integer.naturalText signature.arity),
  (7, "Global"),
  (4, Integer.naturalText (totalBytes signature.kinds)),
  (24, if signature.result = .boolean then "bool".toList else signature.result.name)]

def table (registry : Registry) : Text :=
  (headings :: dashes :: registry.entries.map entryLine).flatMap (· ++ ['\n'])

def Sized (signature : Signature) : Prop := ∀ kind ∈ signature.kinds, kind.size?.isSome

instance (signature : Signature) : Decidable (Sized signature) :=
  inferInstanceAs (Decidable (∀ kind ∈ signature.kinds, kind.size?.isSome))

variable {signature : Signature}

section Lines

theorem join_bars (cell : Text) (cells : List Text) :
    ['|', ' '] ++ Text.join [' ', '|', ' '] (cell :: cells) ++ [' ', '|'] =
      (cell :: cells).flatMap (fun cell => ['|', ' '] ++ cell ++ [' ']) ++ ['|'] := by
  induction cells generalizing cell with
  | nil => simp [Text.join]
  | cons next cells ih =>
    rw [List.flatMap_cons, List.append_assoc _ _ ['|'], ← ih, Text.join,
      List.intercalate_cons_cons]
    simp [Text.join]

theorem column_eq (width : Nat) (cell : Text) :
    column width cell = ['|', ' '] ++ Text.padRight width cell ++ [' '] := by
  simp [column, Text.padRight]

theorem line_eq (row : Row) : row.line = tableLine (widths.zip row.cells) := by
  rw [Row.line, tableLine]
  show ['|', ' '] ++ Text.join [' ', '|', ' '] (_ :: _) ++ [' ', '|'] = _
  rw [join_bars]
  simp [column_eq, widths, Row.cells]

theorem header_eq : header = headings := by decide +kernel

theorem rule_eq : rule = dashes := by decide +kernel

end Lines

section Entries

theorem size?_of_isSome {kind : Kind} (sized : kind.size?.isSome) :
    kind.size? = some (bytes kind) := by
  cases kind with
  | int | double | intArray => rfl
  | boolean | other => cases sized

theorem size_of_sized (sized : Sized signature) :
    signature.size = .ok (totalBytes signature.kinds) := by
  rw [Signature.size, totalBytes]
  unfold Sized at sized
  generalize signature.kinds = kinds at sized ⊢
  generalize 0 = sum
  induction kinds generalizing sum with
  | nil => rfl
  | cons kind kinds ih =>
    obtain ⟨first, rest⟩ := List.forall_mem_cons.1 sized
    rw [List.foldlM_cons, List.foldl_cons, size?_of_isSome first]
    exact ih rest (sum + bytes kind)

theorem resultName_eq (kind : Kind) :
    resultName kind = if kind = .boolean then "bool".toList else kind.name := by
  cases kind <;> rfl

theorem line_of_sized (sized : Sized signature) :
    ∃ row, SymbolTable.row signature = .ok row ∧ row.line = entryLine signature := by
  rw [SymbolTable.row, size_of_sized sized]
  refine ⟨_, rfl, ?_⟩
  rw [line_eq, entryLine, ← resultName_eq]
  rfl

-- The array of the mean counts as a reference.
example : entryLine Builtin.mean.signature =
    "| Mean                  | arr[], size          | int[], int                 " ++
      "| 2                | Global  | 12   | double                   |" := by decide +kernel

theorem lines_of_sized {signatures : List Signature}
    (sized : ∀ signature ∈ signatures, Sized signature) :
    ∃ rows, signatures.mapM row = .ok rows ∧ rows.map Row.line = signatures.map entryLine := by
  induction signatures with
  | nil => exact ⟨[], rfl, rfl⟩
  | cons signature signatures ih =>
    obtain ⟨first, rest⟩ := List.forall_mem_cons.1 sized
    obtain ⟨row, computed, line⟩ := line_of_sized first
    obtain ⟨rows, all, lines⟩ := ih rest
    refine ⟨row :: rows, ?_, by rw [List.map_cons, List.map_cons, line, lines]⟩
    rw [List.mapM_cons, computed, all]
    rfl

theorem text_of_sized {registry : Registry}
    (sized : ∀ signature ∈ registry.entries, Sized signature) :
    ∃ entries, rows registry = .ok entries ∧ text entries = table registry := by
  obtain ⟨entries, computed, lines⟩ := lines_of_sized sized
  exact ⟨entries, computed, by rw [text, table, lines, header_eq, rule_eq]⟩

end Entries

section Standard

theorem sized_standard : ∀ signature ∈ Registry.standard.entries, Sized signature := by
  decide +kernel

theorem standard_eq : standard = table Registry.standard := by
  obtain ⟨entries, computed, written⟩ := text_of_sized sized_standard
  rw [standard, computed]
  exact written

end Standard

end FunctionCalculator.SymbolTable
