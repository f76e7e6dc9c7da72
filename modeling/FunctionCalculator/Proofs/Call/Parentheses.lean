import FunctionCalculator.Proofs.Call.Printing
/-!
The parentheses of a call. Only the first of each kind count, so nothing after the first closing
one matters, and neither does the semicolon at the end.
-/

set_option autoImplicit false

namespace FunctionCalculator.Call

def ClosesFirst (text : Text) : Prop := ')' ∉ text ∨ text.idxOf ')' < text.idxOf '('

instance : DecidablePred ClosesFirst := fun text =>
  inferInstanceAs (Decidable (')' ∉ text ∨ text.idxOf ')' < text.idxOf '('))

variable {text header inside : Text}

theorem closesFirst_of_opening (noOpening : '(' ∉ header) (after : Text) :
    ClosesFirst (header ++ '(' :: after) ↔ ')' ∈ header ∨ ')' ∉ after := by
  have opening : (header ++ '(' :: after).idxOf '(' = header.length := by
    rw [List.idxOf_append_of_notMem noOpening, List.idxOf_cons_self, Nat.add_zero]
  rw [ClosesFirst, opening, List.mem_append, List.mem_cons]
  by_cases closing : ')' ∈ header
  · have before : (header ++ '(' :: after).idxOf ')' < header.length := by
      rw [List.idxOf_append_of_mem closing]
      exact List.idxOf_lt_length_iff.2 closing
    simp [closing, before]
  · have after : ¬ (header ++ '(' :: after).idxOf ')' < header.length := by
      rw [List.idxOf_append_of_notMem closing]
      omega
    simp [closing, after]

theorem splitParentheses_eq_none_iff : splitParentheses? text = none ↔ ClosesFirst text := by
  by_cases opening : '(' ∈ text
  · obtain ⟨header, after, rfl, noOpening⟩ := List.eq_append_cons_of_mem opening
    rw [splitParentheses_of_opening noOpening, closesFirst_of_opening noOpening]
    split <;> simp_all
  · refine iff_of_true (splitParentheses_of_not_mem opening) ?_
    by_cases closing : ')' ∈ text
    · right
      rw [List.idxOf_eq_length opening]
      exact List.idxOf_lt_length_iff.2 closing
    · exact .inl closing

theorem header_of_splitParentheses (split : splitParentheses? text = some (header, inside)) :
    text.takeWhile (· ≠ '(') = header := by
  obtain ⟨⟨noOpening, -⟩, rest, rfl⟩ := splitParentheses_eq_some.1 split
  rw [List.append_assoc]
  exact Text.takeWhile_ne_append noOpening _

theorem exists_split (closing : ¬ ClosesFirst text) :
    ∃ inside, splitParentheses? text = some (text.takeWhile (· ≠ '('), inside) := by
  cases split : splitParentheses? text with
  | none => exact absurd (splitParentheses_eq_none_iff.1 split) closing
  | some sides => exact ⟨sides.2, by rw [header_of_splitParentheses split]⟩

theorem splitParentheses_append (split : splitParentheses? text = some (header, inside))
    (after : Text) : splitParentheses? (text ++ after) = some (header, inside) := by
  obtain ⟨free, rest, rfl⟩ := splitParentheses_eq_some.1 split
  exact splitParentheses_eq_some.2 ⟨free, rest ++ after, by simp⟩

theorem closesFirst_append (closing : ')' ∈ text) (after : Text) :
    ClosesFirst (text ++ after) ↔ ClosesFirst text := by
  have same : (text ++ after).idxOf ')' = text.idxOf ')' := List.idxOf_append_of_mem closing
  have within : text.idxOf ')' < text.length := List.idxOf_lt_length_iff.2 closing
  rw [ClosesFirst, ClosesFirst, same]
  by_cases opening : '(' ∈ text
  · rw [List.idxOf_append_of_mem opening]
    simp [closing]
  · rw [List.idxOf_append_of_notMem opening, List.idxOf_eq_length opening]
    exact iff_of_true (.inr (Nat.lt_add_right _ within)) (.inr within)

theorem splitParentheses_append_of_closing (closing : ')' ∈ text) (after : Text) :
    splitParentheses? (text ++ after) = splitParentheses? text := by
  cases split : splitParentheses? text with
  | some sides => exact splitParentheses_append split after
  | none =>
    have closes := splitParentheses_eq_none_iff.1 split
    exact splitParentheses_eq_none_iff.2 ((closesFirst_append closing after).2 closes)

theorem splitParentheses_semicolon (text : Text) :
    splitParentheses? (text ++ [';']) = splitParentheses? text := by
  cases whole : splitParentheses? text with
  | some sides => exact splitParentheses_append whole [';']
  | none =>
    by_cases opening : '(' ∈ text
    · obtain ⟨header, after, rfl, noOpening⟩ := List.eq_append_cons_of_mem opening
      rw [splitParentheses_eq_none_iff, closesFirst_of_opening noOpening] at whole
      rw [List.append_assoc, List.cons_append, splitParentheses_of_opening noOpening,
        if_pos (by simpa using whole)]
    · exact splitParentheses_of_not_mem (by simpa using opening)

theorem splitParentheses_dropSemicolon (text : Text) :
    splitParentheses? (dropSemicolon text) = splitParentheses? text := by
  unfold dropSemicolon
  split
  · next last =>
    obtain ⟨front, rfl⟩ := List.getLast?_eq_some_iff.1 last
    rw [List.dropLast_concat, splitParentheses_semicolon]
  · rfl

theorem parse_eq (text : Text) : parse text =
    match splitParentheses? text with
    | none => .error (.invalidCall .parentheses)
    | some (header, inside) =>
      match Text.words header with
      | _ :: name :: _ => .ok ⟨name, argumentsOf inside⟩
      | _ => .error (.invalidCall .name) := by
  rewrite [parse, splitParentheses_dropSemicolon]
  rfl

theorem parse_append (closing : ')' ∈ text) (after :
    Text) : parse (text ++ after) = parse text := by
  simp only [parse_eq, splitParentheses_append_of_closing closing]

theorem parse_of_closesFirst (closes : ClosesFirst text) :
    parse text = .error (.invalidCall .parentheses) := by
  rw [parse_eq, splitParentheses_eq_none_iff.2 closes]

theorem parse_of_words {type name : Text} {others : List Text}
    (split : splitParentheses? text = some (header, inside))
    (words : Text.words header = type :: name :: others) :
    parse text = .ok ⟨name, argumentsOf inside⟩ := by
  simp only [parse_eq, split, words]

theorem parse_ok {call : Call} (parsed : parse text = .ok call) :
    ∃ header inside type others, splitParentheses? text = some (header, inside) ∧
      Text.words header = type :: call.name :: others ∧ call.arguments = argumentsOf inside := by
  rw [parse_eq] at parsed
  split at parsed
  · cases parsed
  · next header inside split =>
    split at parsed
    · next type name others words =>
      obtain rfl := Except.ok.inj parsed
      exact ⟨header, inside, type, others, split, words, rfl⟩
    · cases parsed

end FunctionCalculator.Call
