import FunctionCalculator.Proofs.Token.Words
/-!
Tokens written one after the other with a space between them. Only well-formed tokens are found in a
text, and any list of well-formed tokens is found again in its written form.
-/

set_option autoImplicit false

namespace FunctionCalculator.Token

def typeWords : List Text := ["int", "double", "boolean"]

inductive WellFormed : Token → Prop
  | leftParenthesis : WellFormed ⟨"(", .leftParenthesis⟩
  | rightParenthesis : WellFormed ⟨")", .rightParenthesis⟩
  | comma : WellFormed ⟨",", .comma⟩
  | semicolon : WellFormed ⟨";", .semicolon⟩
  | typeWord {word : Text} (reserved : word ∈ typeWords) : WellFormed ⟨word, .typeWord⟩
  | identifier {word : Text} (nonempty : word ≠ [])
    (chars : word.all isAsciiWordChar = true) (free : word ∉ typeWords) :
    WellFormed ⟨word, .identifier⟩

def written (tokens : List Token) : Text := Text.join [' '] (tokens.map Token.text)

theorem mem_typeWords {word : Text} :
    word ∈ typeWords ↔ word = "int" ∨ word = "double" ∨ word = "boolean" := by
  simp [typeWords]

theorem isTypeWord_iff {word : Text} : isTypeWord word = true ↔ word ∈ typeWords := by
  simp only [isTypeWord, mem_typeWords, Bool.or_eq_true, decide_eq_true_eq, or_assoc]

theorem wellFormed_of_ofFragment {fragment : Text} {token : Token}
    (found : ofFragment? fragment = some token) : token.WellFormed := by
  unfold ofFragment? at found
  split at found
  case h_5 =>
    simp only [← mem_typeWords] at found
    split at found
    · next reserved =>
      obtain rfl := Option.some.inj found
      exact .typeWord reserved
    · next free =>
      split at found
      · next chars =>
        obtain rfl := Option.some.inj found
        exact .identifier chars.1 chars.2 free
      · cases found
  all_goals
    obtain rfl := Option.some.inj found
    constructor

theorem wellFormed_of_mem_scan {text : Text} {token : Token} (member : token ∈ scan text) :
    token.WellFormed := by
  rw [scan_eq_split, split] at member
  obtain ⟨fragment, -, found⟩ := List.mem_filterMap.1 member
  exact wellFormed_of_ofFragment found

theorem WellFormed.scan_text {token : Token} (wellFormed : token.WellFormed) :
    scan token.text = [token] := by
  cases wellFormed with
  | leftParenthesis | rightParenthesis | comma | semicolon => decide +kernel
  | typeWord reserved =>
    obtain rfl | rfl | rfl := mem_typeWords.1 reserved <;> decide +kernel
  | @identifier word nonempty chars free =>
    have other : isTypeWord word = false := by rwa [Bool.eq_false_iff, Ne, isTypeWord_iff]
    exact scan_identifier nonempty (isWordChar_eq ▸ chars) other

-- A space ends whatever stands before it, so that no token runs into the next one.
theorem scan_written {tokens : List Token} (wellFormed : ∀ token ∈ tokens, token.WellFormed) :
    scan (written tokens) = tokens := by
  induction tokens with
  | nil => decide +kernel
  | cons token rest ih =>
    obtain ⟨first, others⟩ := List.forall_mem_cons.1 wellFormed
    cases rest with
    | nil =>
      have alone : written [token] = token.text := by simp [written, Text.join]
      rw [alone, first.scan_text]
    | cons second rest =>
      calc scan (written (token :: second :: rest))
          = scan (token.text ++ ' ' :: written (second :: rest)) := rfl
        _ = scan token.text ++ scan (written (second :: rest)) := scan_append_blank rfl _ _
        _ = token :: second :: rest := by rw [first.scan_text, ih others, List.singleton_append]

/-- Scanning is a retraction: it gives well-formed tokens, and what it gives for the written form of
well-formed tokens is these tokens again. -/
theorem scan_retraction :
    (∀ text, ∀ token ∈ scan text, token.WellFormed) ∧
      (∀ tokens : List Token, (∀ token ∈ tokens, token.WellFormed) →
        scan (written tokens) = tokens) ∧
      ∀ text, scan (written (scan text)) = scan text := by
  refine ⟨fun text token member => wellFormed_of_mem_scan member,
    fun tokens wellFormed => scan_written wellFormed, fun text => ?_⟩
  exact scan_written fun token member => wellFormed_of_mem_scan member

theorem scan_retraction_adjacent :
    let tokens : List Token := [⟨"int", .typeWord⟩, ⟨"Int", .identifier⟩, ⟨"(", .leftParenthesis⟩,
      ⟨"(", .leftParenthesis⟩, ⟨"_0", .identifier⟩, ⟨",", .comma⟩]
    (∀ token ∈ tokens, token.WellFormed) ∧ scan "int Int ( ( _0 ," = tokens ∧
      ⟨"_0", .identifier⟩ ∈ scan "a-b;(_0" ∧ WellFormed ⟨"_0", .identifier⟩ := by
  intro tokens
  have wellFormed : ∀ token ∈ tokens, token.WellFormed := by
    simp only [tokens, List.forall_mem_cons]
    refine ⟨.typeWord ?_, .identifier ?_ ?_ ?_, .leftParenthesis, .leftParenthesis,
      .identifier ?_ ?_ ?_, .comma, nofun⟩ <;> decide
  have member : ⟨"_0", .identifier⟩ ∈ scan "a-b;(_0" := by decide +kernel
  exact ⟨wellFormed, scan_retraction.2.1 tokens wellFormed, member, scan_retraction.1 _ _ member⟩

end FunctionCalculator.Token
