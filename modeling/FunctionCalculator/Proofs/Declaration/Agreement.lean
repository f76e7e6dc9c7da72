import FunctionCalculator.Operation
import FunctionCalculator.Proofs.Call.Parentheses
import FunctionCalculator.Proofs.Code.Term
import FunctionCalculator.Proofs.Declaration.Grammar
import FunctionCalculator.Proofs.Evaluation.Outcome
import FunctionCalculator.Proofs.Token.Words
/-!
A declaration that is accepted, read as a call and as tokens. All three readers cut the name out of
the text in their own way and find the same one.
-/

set_option autoImplicit false

namespace FunctionCalculator.Declaration

section Calls

variable {text name : Text}

theorem Declared.words_header (declared : Declared name text) :
    ∃ type, Text.words (header text) = [type, name] := by
  obtain @⟨front, inside, type, builtin, noOpening, words, known⟩ := declared
  rw [List.append_assoc, List.cons_append, header_append noOpening]
  exact ⟨type, words⟩

theorem Declared.parse_ok (declared : Declared name text) (closing : ¬ Call.ClosesFirst text) :
    ∃ arguments, Call.parse text = .ok ⟨name, arguments⟩ := by
  obtain ⟨inside, split⟩ := Call.exists_split closing
  obtain ⟨type, words⟩ := declared.words_header
  exact ⟨_, Call.parse_of_words split words⟩

theorem Declared.parse_error_iff (declared : Declared name text) :
    Call.parse text = .error (.invalidCall .parentheses) ↔ Call.ClosesFirst text := by
  refine ⟨fun failed => ?_, Call.parse_of_closesFirst⟩
  by_contra closing
  obtain ⟨arguments, parsed⟩ := declared.parse_ok closing
  cases parsed.symm.trans failed

theorem Declared.evaluateCall_error (declared : Declared name text) {error : Error}
    (failed : Operation.evaluateCall text = .error error) :
    error = .invalidCall .parentheses ∨ Evaluation.OfKnown error := by
  by_cases closes : Call.ClosesFirst text
  · rw [Operation.evaluateCall, Call.parse_of_closesFirst closes] at failed
    exact .inl (Except.error.inj failed).symm
  · obtain ⟨arguments, parsed⟩ := declared.parse_ok closes
    rw [Operation.evaluateCall, parsed] at failed
    obtain ⟨-, -, known⟩ := declared
    exact .inr (Evaluation.evaluate_error_of_found known (Code.bind_pure_error failed))

theorem Declared.name_eq (declared : Declared name text) {call : Call}
    (parsed : Call.parse text = .ok call) : name = call.name := by
  by_cases closes : Call.ClosesFirst text
  · cases (Call.parse_of_closesFirst closes).symm.trans parsed
  · obtain ⟨arguments, found⟩ := declared.parse_ok closes
    rw [← Except.ok.inj (found.symm.trans parsed)]

theorem exists_inside {front after : Text} (last : (front ++ '(' :: after).getLast? = some ';') :
    ∃ inside, after = inside ++ [';'] := by
  have ends : after.getLast?.getD '(' = ';' := by
    simpa [List.getLast?_cons] using last
  cases found : after.getLast? with
  | none =>
    rw [found] at ends
    cases ends
  | some c =>
    rw [found] at ends
    obtain rfl : c = ';' := ends
    exact List.getLast?_eq_some_iff.1 found

theorem declared_of_evaluate {call : Call} {shown : Text} (last : text.getLast? = some ';')
    (parsed : Call.parse text = .ok call)
    (evaluated : Evaluation.evaluate call.name call.arguments = .ok shown)
    (two : (Text.words (header text)).length = 2) : Declared call.name text := by
  obtain ⟨front, within, type, others, split, words, -⟩ := Call.parse_ok parsed
  obtain ⟨builtin, known⟩ := Evaluation.found_of_evaluate evaluated
  obtain ⟨⟨noOpening, -⟩, rest, rfl⟩ := Call.splitParentheses_eq_some.1 split
  rw [List.append_assoc, List.cons_append] at last two ⊢
  rw [header_append noOpening, words] at two
  obtain rfl : others = [] := by simpa using two
  obtain ⟨inside, ends⟩ := exists_inside last
  rw [ends, ← List.cons_append, ← List.append_assoc]
  exact .intro noOpening words known

/-- An accepted declaration is a call of the declared name when its parentheses are in order, and
evaluating it tells neither that the name is unknown nor that there is none. The other way round, a
call that can be evaluated and ends in a semicolon is accepted just when it has two header words. -/
theorem check_agrees_with_evaluation :
    (∀ text name, check text = .ok name →
      (Call.parse text = .error (.invalidCall .parentheses) ↔ Call.ClosesFirst text) ∧
      (¬ Call.ClosesFirst text → ∃ arguments, Call.parse text = .ok ⟨name, arguments⟩) ∧
      ∀ error, Operation.evaluateCall text = .error error →
        (∀ other, error ≠ .unknownFunction other) ∧ error ≠ .invalidCall .name) ∧
    ∀ text call shown, text.getLast? = some ';' → Call.parse text = .ok call →
      Evaluation.evaluate call.name call.arguments = .ok shown →
        ((∃ name, check text = .ok name) ↔ (Text.words (header text)).length = 2) ∧
        ∀ name, check text = .ok name → name = call.name := by
  constructor
  · intro text name checked
    have declared := check_eq_ok_iff.1 checked
    refine ⟨declared.parse_error_iff, declared.parse_ok, fun error failed => ?_⟩
    rcases declared.evaluateCall_error failed with rfl | known
    · exact ⟨by simp, by simp⟩
    · constructor
      · rintro other rfl
        exact known
      · rintro rfl
        exact known
  · intro text call shown last parsed evaluated
    refine ⟨⟨?_, fun two => ?_⟩, ?_⟩
    · rintro ⟨name, checked⟩
      obtain ⟨type, words⟩ := (check_eq_ok_iff.1 checked).words_header
      rw [words]
      rfl
    · exact ⟨call.name, check_eq_ok_iff.2 (declared_of_evaluate last parsed evaluated two)⟩
    · intro name checked
      exact (check_eq_ok_iff.1 checked).name_eq parsed

theorem check_agrees_with_evaluation_gcd :
    let text : Text := "int Gcd( 12,18 );"
    let reversed : Text := "f) gcd(12;"
    (check text = .ok "Gcd" ∧ ∃ arguments, Call.parse text = .ok ⟨"Gcd", arguments⟩) ∧
      (check reversed = .ok "gcd" ∧ Call.parse reversed = .error (.invalidCall .parentheses)) ∧
      (Evaluation.evaluate "Gcd" ["12", "18"] = .ok "6" ∧
        (Text.words (header text)).length = 2) := by
  intro text reversed
  have accepted : check text = .ok "Gcd" := by decide +kernel
  have acceptedReversed : check reversed = .ok "gcd" := by decide +kernel
  have parsed : Call.parse text = .ok ⟨"Gcd", ["12", "18"]⟩ := by decide +kernel
  have evaluated : Evaluation.evaluate "Gcd" ["12", "18"] = .ok "6" := by decide +kernel
  have calls := check_agrees_with_evaluation.1 text "Gcd" accepted
  have reversedCalls := check_agrees_with_evaluation.1 reversed "gcd" acceptedReversed
  have words := check_agrees_with_evaluation.2 text _ _ (by decide) parsed evaluated
  refine ⟨⟨accepted, calls.2.1 (by decide)⟩, ⟨acceptedReversed, reversedCalls.1.2 (by decide)⟩, ?_⟩
  exact ⟨evaluated, words.1.1 ⟨_, accepted⟩⟩

end Calls

section Tokens

variable {text name : Text} {builtin : Builtin}

theorem isWordChar_of_toLower {c : Char} (word : Token.isWordChar c.toLower = true) :
    Token.isWordChar c = true := by
  unfold Char.toLower at word
  split at word
  · next within =>
    have upper : c.isUpper = true := decide_eq_true within
    show (((c.isUpper || c.isLower) || c.isDigit) || decide (c = '_')) = true
    rw [upper]
    rfl
  · exact word

theorem isWordChar_of_known (known : Builtin.find? name = some builtin) :
    name.all Token.isWordChar = true := by
  have each : ∀ builtin ∈ Builtin.all, builtin.name.all Token.isWordChar = true := by
    decide +kernel
  have lowered := each builtin builtin.mem_all
  rw [← Builtin.find_eq_some_iff.1 known, List.all_map, List.all_eq_true] at lowered
  exact List.all_eq_true.2 fun c member => isWordChar_of_toLower (lowered c member)

theorem untyped_of_known (known : Builtin.find? name = some builtin) :
    Token.isTypeWord name = false := by
  have each : ∀ builtin ∈ Builtin.all, Token.isTypeWord builtin.name = false := by decide +kernel
  by_contra typed
  have lowered : name.map Char.toLower = name := by
    simp only [Token.isTypeWord, Bool.not_eq_false, Bool.or_eq_true, decide_eq_true_eq] at typed
    obtain (rfl | rfl) | rfl := typed <;> decide
  rw [Builtin.find_eq_some_iff, lowered] at known
  exact typed (known ▸ each builtin builtin.mem_all)

theorem scan_header {front type : Text} (words : Text.words front = [type, name])
    (known : Builtin.find? name = some builtin) :
    Token.scan front = Token.scan type ++ [⟨name, .identifier⟩] := by
  have member : name ∈ Text.words front := by simp [words]
  have nonempty : name ≠ [] := Text.ne_nil_of_mem_words member
  rw [Token.scan_eq_flatMap_words, words, List.flatMap_cons, List.flatMap_singleton,
    Token.scan_identifier nonempty (isWordChar_of_known known) (untyped_of_known known)]

theorem scan_of_check (checked : check text = .ok name) :
    ∃ before inside,
      Token.scan text = before ++ ⟨name, .identifier⟩ :: ⟨"(", .leftParenthesis⟩ :: inside ++
        [⟨";", .semicolon⟩] ∧
      ∀ token ∈ before, token.kind ≠ .leftParenthesis := by
  obtain @⟨front, inside, type, builtin, noOpening, words, known⟩ := check_eq_ok_iff.1 checked
  refine ⟨Token.scan type, Token.scan inside, ?_, fun token member opening => ?_⟩
  · calc Token.scan (front ++ '(' :: inside ++ [';'])
        = Token.scan (front ++ '(' :: inside) ++ ⟨[';'], .semicolon⟩ :: Token.scan [] :=
          Token.scan_append_delimiter rfl _ []
      _ = Token.scan front ++ ⟨['('], .leftParenthesis⟩ :: Token.scan inside ++
          [⟨[';'], .semicolon⟩] := by
        rw [Token.scan_append_delimiter rfl, Token.scan]
      _ = _ := by simp [scan_header words known]
  · have inType := Token.opening_of_mem_scan member opening
    exact noOpening (Text.mem_of_mem_words (by simp [words]) inType)

theorem scan_of_check_add :
    let text : Text := "a;b,\u00a0Add(x) (;"
    check text = .ok "Add" ∧ ∃ before inside,
      Token.scan text = before ++ ⟨"Add", .identifier⟩ :: ⟨"(", .leftParenthesis⟩ :: inside ++
        [⟨";", .semicolon⟩] ∧
      ∀ token ∈ before, token.kind ≠ .leftParenthesis := by
  intro text
  have accepted : check text = .ok "Add" := by decide +kernel
  exact ⟨accepted, scan_of_check accepted⟩

end Tokens
end FunctionCalculator.Declaration
