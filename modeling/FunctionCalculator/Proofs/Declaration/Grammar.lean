import FunctionCalculator.Declaration
import FunctionCalculator.Proofs.Builtin.Lookup
import FunctionCalculator.Proofs.Text.Pieces
/-!
Which texts are declarations, and which rule is told for every other text. The rules have an order,
and what stands between the first opening parenthesis and the semicolon at the end is not looked at.
-/

set_option autoImplicit false

namespace FunctionCalculator.Declaration

/-- Two words before the first opening parenthesis, the second one a known name, and a semicolon at
the end. What stands between them is not looked at. -/
inductive Declared (name : Text) : Text → Prop
  | intro {front inside type : Text} {builtin : Builtin} (noOpening : '(' ∉ front)
    (words : Text.words front = [type, name]) (known : Builtin.find? name = some builtin) :
    Declared name (front ++ '(' :: inside ++ [';'])

def Registered (name : Text) : Prop :=
  name.map Char.toLower ∈ Registry.standard.entries.map Signature.name

/-- The first rule that a text breaks, told by its error. A text that breaks a later rule keeps
those before it. -/
inductive Refused : Text → Error → Prop
  | semicolon {text : Text} (unended : ∀ front, text ≠ front ++ [';']) :
    Refused text .missingSemicolon
  | parenthesis {front : Text} (noOpening : '(' ∉ front) :
    Refused (front ++ [';']) .invalidDeclaration
  | header {front inside : Text} (noOpening : '(' ∉ front)
    (words : (Text.words front).length ≠ 2) :
    Refused (front ++ '(' :: inside ++ [';']) .invalidHeader
  | name {front inside type name : Text} (noOpening : '(' ∉ front)
    (words : Text.words front = [type, name]) (unknown : ¬ Registered name) :
    Refused (front ++ '(' :: inside ++ [';']) (.undefinedFunction name)

def checkWords : List Text → Except Error Text
  | [_, name] =>
    if (Registry.standard.lookup name).isSome then .ok name else .error (.undefinedFunction name)
  | _ => .error .invalidHeader

section Rules

variable {text name front : Text}

theorem lookup_isSome : (Registry.standard.lookup name).isSome = true ↔
    ∃ builtin, Builtin.find? name = some builtin := by
  rw [Registry.lookup_standard, Option.isSome_map, Option.isSome_iff_exists]

theorem registered_iff : Registered name ↔ ∃ builtin, Builtin.find? name = some builtin := by
  simp only [Builtin.find_eq_some_iff]
  show _ ∈ (Builtin.all.map Builtin.signature).map Signature.name ↔ _
  rw [List.map_map, List.mem_map]
  constructor
  · rintro ⟨builtin, -, same⟩
    exact ⟨builtin, same.symm⟩
  · rintro ⟨builtin, same⟩
    exact ⟨builtin, builtin.mem_all, same.symm⟩

theorem declared_or_refused (text : Text) :
    (∃ name, Declared name text) ∨ ∃ error, Refused text error := by
  by_cases ended : ∃ front, text = front ++ [';']
  · obtain ⟨front, rfl⟩ := ended
    by_cases opening : '(' ∈ front
    · obtain ⟨before, inside, rfl, noOpening⟩ := List.eq_append_cons_of_mem opening
      by_cases two : (Text.words before).length = 2
      · obtain ⟨type, name, words⟩ := List.length_eq_two.1 two
        by_cases registered : Registered name
        · obtain ⟨builtin, known⟩ := registered_iff.1 registered
          exact .inl ⟨name, .intro noOpening words known⟩
        · exact .inr ⟨_, .name noOpening words registered⟩
      · exact .inr ⟨_, .header noOpening two⟩
    · exact .inr ⟨_, .parenthesis opening⟩
  · exact .inr ⟨_, .semicolon (not_exists.1 ended)⟩

theorem header_append (noOpening : '(' ∉ front) (after : Text) :
    header (front ++ '(' :: after) = front :=
  Text.takeWhile_ne_append noOpening after

theorem check_opened (noOpening : '(' ∉ front) (inside : Text) :
    check (front ++ '(' :: inside ++ [';']) = checkWords (Text.words front) := by
  rw [check, if_neg (by rw [List.getLast?_concat]; simp), if_neg (by simp), List.append_assoc,
    List.cons_append, header_append noOpening]
  rfl

theorem checkWords_other {words : List Text} (other : words.length ≠ 2) :
    checkWords words = .error .invalidHeader := by
  unfold checkWords
  split
  · exact absurd rfl other
  · rfl

theorem Declared.check_eq (declared : Declared name text) : check text = .ok name := by
  obtain ⟨noOpening, words, known⟩ := declared
  rw [check_opened noOpening, words]
  exact if_pos (lookup_isSome.2 ⟨_, known⟩)

theorem Refused.check_eq {error : Error} (refused : Refused text error) :
    check text = .error error := by
  cases refused with
  | semicolon unended =>
    exact if_pos fun last => (List.getLast?_eq_some_iff.1 last).elim unended
  | parenthesis noOpening =>
    rw [check, if_neg (by simp), if_pos (by simpa using noOpening)]
  | header noOpening words => rw [check_opened noOpening, checkWords_other words]
  | name noOpening words unknown =>
    rw [check_opened noOpening, words]
    exact if_neg fun known => unknown (registered_iff.2 (lookup_isSome.1 known))

theorem check_eq_ok_iff : check text = .ok name ↔ Declared name text := by
  refine ⟨fun checked => ?_, Declared.check_eq⟩
  obtain ⟨other, declared⟩ | ⟨error, refused⟩ := declared_or_refused text
  · obtain rfl := Except.ok.inj (declared.check_eq.symm.trans checked)
    exact declared
  · cases refused.check_eq.symm.trans checked

theorem check_eq_error_iff {error : Error} : check text = .error error ↔ Refused text error := by
  refine ⟨fun checked => ?_, Refused.check_eq⟩
  obtain ⟨name, declared⟩ | ⟨other, refused⟩ := declared_or_refused text
  · cases declared.check_eq.symm.trans checked
  · obtain rfl := Except.error.inj (refused.check_eq.symm.trans checked)
    exact refused

end Rules

/-- A text is accepted with its second word just when it is one of the grammar, and otherwise the
error is that of the first rule that it breaks. Neither depends on what the parenthesis opens. -/
theorem check_accepts_grammar :
    (∀ text name, check text = .ok name ↔ ∃ front inside type,
        text = front ++ '(' :: inside ++ [';'] ∧ '(' ∉ front ∧ Text.words front = [type, name] ∧
          Registered name) ∧
      (∀ text error, check text = .error error ↔ Refused text error) ∧
      ∀ front inside other : Text, '(' ∉ front →
        report (front ++ '(' :: inside ++ [';']) = report (front ++ '(' :: other ++ [';']) := by
  refine ⟨fun text name => ?_, fun text error => check_eq_error_iff,
    fun front inside other noOpening => ?_⟩
  · rw [check_eq_ok_iff]
    constructor
    · rintro ⟨noOpening, words, known⟩
      exact ⟨_, _, _, rfl, noOpening, words, registered_iff.2 ⟨_, known⟩⟩
    · rintro ⟨front, inside, type, rfl, noOpening, words, registered⟩
      obtain ⟨builtin, known⟩ := registered_iff.1 registered
      exact .intro noOpening words known
  · rw [report, report, check_opened noOpening, check_opened noOpening]

theorem check_accepts_grammar_nested :
    '(' ∉ ("int\tADD " : Text) ∧
      report "int\tADD (;);x) (;" = report "int\tADD (;" ∧
      report "int\tADD (;" = "Function 'ADD' compiled successfully." :=
  have noOpening : '(' ∉ ("int\tADD " : Text) := by decide
  ⟨noOpening, check_accepts_grammar.2.2 "int\tADD " ";);x) (" "" noOpening, by decide +kernel⟩

end FunctionCalculator.Declaration
