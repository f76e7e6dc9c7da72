import FunctionCalculator.Proofs.Code.Hygiene
import FunctionCalculator.Proofs.Integer.Numeral
/-!
Templates as texts with placeholders. A right-hand side is a row of parts, each either written as it
stands or an argument; the number of the argument in braces is its placeholder. Filling a pattern
puts the arguments in and does not look at them again.
-/

set_option autoImplicit false

namespace FunctionCalculator.Code

namespace Term

variable {α β ε : Type}

def map (f : α → β) : Term α → Term β
  | .argument value => .argument (f value)
  | .temporary index => .temporary index
  | .number value => .number value
  | .pi => .pi
  | .binary operator left right => .binary operator (left.map f) (right.map f)
  | .group inner => .group (inner.map f)
  | .apply primitive inner => .apply primitive (inner.map f)
  | .apply₂ primitive first second => .apply₂ primitive (first.map f) (second.map f)
  | .choose condition yes no => .choose (condition.map f) (yes.map f) (no.map f)

theorem replace_eq_map {f : α → Except ε β} {g : α → β} (term : Term α)
    (given : ∀ value ∈ term.arguments, f value = .ok (g value)) :
    term.replace f = .ok (term.map g) := by
  induction term with
  | argument value =>
    rw [replace, given value (List.mem_singleton_self value)]
    rfl
  | temporary | number | pi => rfl
  | group inner ih | apply _ inner ih =>
    rw [replace, ih given]
    rfl
  | binary _ left right leftIH rightIH | apply₂ _ left right leftIH rightIH =>
    obtain ⟨first, second⟩ := List.forall_mem_append.1 given
    rw [replace, leftIH first, rightIH second]
    rfl
  | choose condition yes no conditionIH yesIH noIH =>
    obtain ⟨first, others⟩ := List.forall_mem_append.1 given
    obtain ⟨second, third⟩ := List.forall_mem_append.1 others
    rw [replace, conditionIH first, yesIH second, noIH third]
    rfl

def parts : Term α → List (Text ⊕ α)
  | .argument value => [.inr value]
  | .temporary index => [.inl (temporaryName index)]
  | .number value => [.inl (Integer.naturalText value)]
  | .pi => [.inl "3.1416"]
  | .binary operator left right =>
    left.parts ++ .inl ([' '] ++ operator.symbol ++ [' ']) :: right.parts
  | .group inner => .inl ['('] :: inner.parts ++ [.inl [')']]
  | .apply primitive inner => .inl (primitive.name ++ ['(']) :: inner.parts ++ [.inl [')']]
  | .apply₂ primitive first second =>
    .inl (primitive.name ++ ['(']) :: first.parts ++ .inl [',', ' '] :: second.parts ++ [.inl [')']]
  | .choose condition yes no =>
    condition.parts ++ .inl [' ', '?', ' '] :: yes.parts ++ .inl [' ', ':', ' '] :: no.parts

-- The texts are opened by `show`: the equations of `text` are slow to make, for the literal in one.
theorem text_map (write : α → Text) (term : Term α) :
    (term.map write).text = term.parts.flatMap (Sum.elim id write) := by
  induction term with
  | argument | temporary | number | pi => exact (List.flatMap_singleton _ _).symm
  | group inner ih =>
    show '(' :: (inner.map write).text ++ [')'] = _
    simp [parts, ih]
  | apply primitive inner ih =>
    show primitive.name ++ ['('] ++ (inner.map write).text ++ [')'] = _
    simp [parts, ih]
  | binary operator left right leftIH rightIH =>
    show (left.map write).text ++ [' '] ++ operator.symbol ++ [' '] ++ (right.map write).text = _
    simp [parts, leftIH, rightIH]
  | apply₂ primitive first second firstIH secondIH =>
    show primitive.name ++ ['('] ++ (first.map write).text ++ [',', ' '] ++
      (second.map write).text ++ [')'] = _
    simp [parts, firstIH, secondIH]
  | choose condition yes no conditionIH yesIH noIH =>
    show (condition.map write).text ++ [' ', '?', ' '] ++ (yes.map write).text ++ [' ', ':', ' '] ++
      (no.map write).text = _
    simp [parts, conditionIH, yesIH, noIH]

theorem inr_mem_parts {term : Term α} {value : α} :
    .inr value ∈ term.parts ↔ value ∈ term.arguments := by
  induction term with
  | argument | temporary | number | pi => simp [arguments, parts]
  | group inner ih | apply _ inner ih => simp [arguments, parts, ih]
  | binary _ left right leftIH rightIH | apply₂ _ left right leftIH rightIH =>
    simp [arguments, parts, leftIH, rightIH]
  | choose condition yes no conditionIH yesIH noIH =>
    simp [arguments, parts, conditionIH, yesIH, noIH]

end Term

section Assignment

variable {builtin : Builtin} {arguments : List Text} {value : Nat → Text}

def instructions (terms : List (Term Text)) : List Instruction :=
  terms.mapIdx (fun place term => ⟨.temporary (place + 1), term⟩) ++
    [⟨.result, .temporary terms.length⟩]

def placeholders (builtin : Builtin) : List Nat := (template builtin).flatMap Term.arguments

theorem placeholders_eq_loads (builtin : Builtin) : placeholders builtin = loads builtin := by
  cases builtin <;> rfl

def valueAt (arguments : List Text) (index : Nat) : Text := arguments[index]?.getD []

theorem valueAt_eq {index : Nat} (within : index < arguments.length) :
    (arguments.map Text.trim)[index]? = some (valueAt (arguments.map Text.trim) index) := by
  simp [valueAt, within]

theorem assign_eq_map {terms : List (Term Nat)}
    (given : ∀ term ∈ terms, ∀ index ∈ term.arguments, argument arguments index = .ok (value index))
    (first : Nat) :
    assign arguments first terms = .ok
      ((terms.map (Term.map value)).mapIdx (fun place term => ⟨.temporary (place + first), term⟩) ++
        [⟨.result, .temporary (terms.length + first - 1)⟩]) := by
  induction terms generalizing first with
  | nil => simp [assign]
  | cons term rest ih =>
    obtain ⟨here, others⟩ := List.forall_mem_cons.1 given
    rw [assign, term.replace_eq_map here, ih others]
    simp [bind, Except.bind, pure, Except.pure, Nat.add_assoc, Nat.add_comm 1]

theorem emit_eq_instructions {name : Text} (known : Builtin.named? (resolve name) = some builtin)
    (given : ∀ index ∈ placeholders builtin,
      (arguments.map Text.trim)[index]? = some (value index)) :
    emit (some name) (arguments.map some) =
      .ok (instructions ((template builtin).map (Term.map value))) := by
  have read : ∀ term ∈ template builtin, ∀ index ∈ term.arguments,
      argument (arguments.map Text.trim) index = .ok (value index) := by
    intro term member index inside
    exact argument_eq_ok.2 (given index (List.mem_flatMap.2 ⟨term, member, inside⟩))
  rw [emit_of_supported known, assign_eq_map read, instructions, List.length_map,
    Nat.add_sub_cancel]

end Assignment

section Plain

/-- The characters that a template writes of its own, above a line feed and below a brace. -/
def IsPlain (c : Char) : Prop := '\n'.toNat < c.toNat ∧ c.toNat < '{'.toNat

instance : DecidablePred IsPlain := fun c =>
  inferInstanceAs (Decidable ('\n'.toNat < c.toNat ∧ c.toNat < '{'.toNat))

def Plain (text : Text) : Prop := ∀ c ∈ text, IsPlain c

instance : DecidablePred Plain := List.decidableBAll IsPlain

theorem plain_append {first second : Text} (plain : Plain first) (other : Plain second) :
    Plain (first ++ second) :=
  List.forall_mem_append.2 ⟨plain, other⟩

theorem plain_symbol (operator : Operator) : Plain operator.symbol := by
  cases operator <;> decide +kernel

theorem plain_name (primitive : Primitive) : Plain primitive.name := by
  cases primitive <;> decide +kernel

theorem plain_opening (primitive : Primitive) : Plain (primitive.name ++ ['(']) :=
  plain_append (plain_name primitive) (by decide)

theorem plain_naturalText (n : Nat) : Plain (Integer.naturalText n) := by
  obtain ⟨values, written, small, -⟩ := Integer.naturalText_eq n
  have each : ∀ d < 10, IsPlain d.digitChar := by decide
  rw [written]
  exact List.forall_mem_map.2 fun d member => each d (small d member)

theorem plain_temporaryName (index : Nat) : Plain (Term.temporaryName index) :=
  List.forall_mem_cons.2 ⟨by decide, plain_naturalText index⟩

theorem plain_parts {α : Type} (term : Term α) :
    ∀ part ∈ term.parts, part.elim Plain fun _ => True := by
  induction term with
  | argument value => simp [Term.parts]
  | temporary index => simpa [Term.parts] using plain_temporaryName index
  | number value => simpa [Term.parts] using plain_naturalText value
  | pi =>
    have places : Plain "3.1416" := by decide +kernel
    simpa [Term.parts] using places
  | group inner ih =>
    simp only [Term.parts, List.forall_mem_append, List.forall_mem_cons, Sum.elim_inl]
    exact ⟨⟨by decide, ih⟩, by decide, nofun⟩
  | apply primitive inner ih =>
    simp only [Term.parts, List.forall_mem_append, List.forall_mem_cons, Sum.elim_inl]
    exact ⟨⟨plain_opening primitive, ih⟩, by decide, nofun⟩
  | binary operator left right leftIH rightIH =>
    have sign : Plain ([' '] ++ operator.symbol ++ [' ']) :=
      plain_append (plain_append (by decide) (plain_symbol operator)) (by decide)
    simp only [Term.parts, List.forall_mem_append, List.forall_mem_cons, Sum.elim_inl]
    exact ⟨leftIH, sign, rightIH⟩
  | apply₂ primitive first second firstIH secondIH =>
    simp only [Term.parts, List.forall_mem_append, List.forall_mem_cons, Sum.elim_inl]
    exact ⟨⟨⟨plain_opening primitive, firstIH⟩, by decide, secondIH⟩, by decide, nofun⟩
  | choose condition yes no conditionIH yesIH noIH =>
    simp only [Term.parts, List.forall_mem_append, List.forall_mem_cons, Sum.elim_inl]
    exact ⟨⟨conditionIH, by decide, yesIH⟩, by decide, noIH⟩

theorem not_mem_text {c : Char} (foreign : ¬ IsPlain c) {α : Type} {write : α → Text}
    {term : Term α} (free : ∀ value ∈ term.arguments, c ∉ write value) :
    c ∉ (term.map write).text := by
  rw [Term.text_map]
  intro member
  obtain ⟨part, inside, found⟩ := List.mem_flatMap.1 member
  have plain := plain_parts term part inside
  cases part with
  | inl text => exact foreign (plain c found)
  | inr value => exact free value (Term.inr_mem_parts.1 inside) found

end Plain

section Filling

def placeholder (index : Nat) : Text := '{' :: (Integer.naturalText index ++ ['}'])

def Term.pattern (term : Term Nat) : Text := (term.map placeholder).text

example : (template .mean).map Term.pattern = ["sum({0})", "length({0})", "t1 / t2"] := by
  decide +kernel

/-- A pattern, or what is left of one, with each placeholder replaced by its argument. Inside a
placeholder the number that was read so far is kept. -/
def fillFrom (arguments : List Text) : Option Nat → Text → Option Text
  | none, [] => some []
  | some _, [] => none
  | none, c :: rest =>
    if c = '{' then fillFrom arguments (some 0) rest
    else (fillFrom arguments none rest).map (c :: ·)
  | some index, c :: rest =>
    if c = '}' then
      arguments[index]?.bind fun value => (fillFrom arguments none rest).map (value ++ ·)
    else
      (Text.digitValue? c).bind fun digit => fillFrom arguments (some (10 * index + digit)) rest

def fill (arguments : List Text) (pattern : Text) : Option Text := fillFrom arguments none pattern

variable {arguments : List Text}

theorem fill_plain {chunk : Text} (plain : Plain chunk) (rest : Text) :
    fill arguments (chunk ++ rest) = (fill arguments rest).map (chunk ++ ·) := by
  induction chunk with
  | nil => simp
  | cons c chunk ih =>
    obtain ⟨first, others⟩ := List.forall_mem_cons.1 plain
    have other : c ≠ '{' := by
      rintro rfl
      exact Nat.lt_irrefl _ first.2
    have later := ih others
    rw [fill] at later
    simp [fill, fillFrom, other, later, Function.comp_def]

theorem fillFrom_number {values : List Nat} (small : ∀ d ∈ values, d < 10) (index : Nat)
    (rest : Text) :
    fillFrom arguments (some index) (values.map Nat.digitChar ++ rest) =
      fillFrom arguments (some (values.foldl (fun sum digit => 10 * sum + digit) index)) rest := by
  induction values generalizing index with
  | nil => rfl
  | cons d values ih =>
    obtain ⟨first, others⟩ := List.forall_mem_cons.1 small
    have other : d.digitChar ≠ '}' := by simp
    simp [fillFrom, other, Text.digitValue_digitChar first, ih others]

theorem fill_placeholder {index : Nat} {value : Text} (given : arguments[index]? = some value)
    (rest : Text) :
    fill arguments (placeholder index ++ rest) = (fill arguments rest).map (value ++ ·) := by
  obtain ⟨values, written, small, -, number⟩ := Integer.naturalText_eq index
  have read : values.foldl (fun sum digit => 10 * sum + digit) 0 = index :=
    (Text.ofDigitValues_eq values).trans number
  have opened : fill arguments (placeholder index ++ rest) =
      fillFrom arguments (some 0) (values.map Nat.digitChar ++ '}' :: rest) := by
    simp [fill, placeholder, fillFrom, written]
  rw [opened, fillFrom_number small, read, fillFrom, if_pos rfl, given]
  rfl

theorem fill_pattern {value : Nat → Text} (term : Term Nat)
    (given : ∀ index ∈ term.arguments, arguments[index]? = some (value index)) :
    fill arguments term.pattern = some (term.map value).text := by
  have each : ∀ index, .inr index ∈ term.parts → arguments[index]? = some (value index) :=
    fun index member => given index (Term.inr_mem_parts.1 member)
  have plain := plain_parts term
  rw [Term.pattern, Term.text_map, Term.text_map]
  generalize term.parts = parts at each plain
  induction parts with
  | nil => rfl
  | cons part parts ih =>
    obtain ⟨first, others⟩ := List.forall_mem_cons.1 plain
    have later := ih (fun index member => each index (List.mem_cons_of_mem part member)) others
    cases part with
    | inl text =>
      rw [List.flatMap_cons, List.flatMap_cons, Sum.elim_inl, id, fill_plain first, later]
      rfl
    | inr index =>
      have found := each index List.mem_cons_self
      rw [List.flatMap_cons, List.flatMap_cons, Sum.elim_inr, Sum.elim_inr, fill_placeholder found,
        later]
      rfl

end Filling

end FunctionCalculator.Code
