import FunctionCalculator.Proofs.Token.Splitting
/-!
The tokens of a text are those of its words, one after the other: no token spans two words, and a
delimiter inside a word cuts it.
-/

set_option autoImplicit false

namespace FunctionCalculator.Token

section Cutting

theorem scan_append_cons {c : Char} (boundary : isBoundary c = true) (front back : Text) :
    scan (front ++ c :: back) = scan front ++ (ofFragment? [c]).toList ++ scan back := by
  simp only [scan_eq_split, split, Text.fragments_append_cons boundary, List.filterMap_append,
    List.filterMap_cons]
  cases ofFragment? [c] <;> simp

theorem scan_append_blank {c : Char} (blank : Text.isBlank c = true) (front back : Text) :
    scan (front ++ c :: back) = scan front ++ scan back := by
  rw [scan_append_cons (by simp [isBoundary, blank]), ofFragment_blank blank]
  simp

theorem scan_append_delimiter {c : Char} {kind : TokenKind} (found : delimiter? c = some kind)
    (front back : Text) : scan (front ++ c :: back) = scan front ++ ⟨[c], kind⟩ :: scan back := by
  have boundary : isBoundary c = true := by simp [isBoundary_eq, inChunk, found]
  rw [scan_append_cons boundary, ofFragment_delimiter found]
  simp

theorem scan_chunk {chunk : Text} (nonempty : chunk ≠ []) (inside : ∀ c ∈ chunk, inChunk c = true) :
    scan chunk = (ofChunk? chunk).toList := by
  have uncut : ∀ c ∈ chunk, isBoundary c = false := by
    intro c member
    simp [isBoundary_eq, inside c member]
  rw [scan_eq_split, split, Text.fragments_of_uncut uncut, List.filterMap_cons,
    ofFragment_chunk nonempty inside]
  cases ofChunk? chunk <;> rfl

theorem inChunk_of_isWordChar {c : Char} (word : isWordChar c = true) : inChunk c = true := by
  rw [isWordChar_eq] at word
  by_contra outside
  cases found : delimiter? c with
  | none => simp [isAsciiWordChar_of_blank (blank_of_neither outside found)] at word
  | some kind =>
    obtain ⟨rfl, -⟩ | ⟨rfl, -⟩ | ⟨rfl, -⟩ | ⟨rfl, -⟩ := delimiter_eq_some found <;>
      exact absurd word (by decide)

theorem scan_identifier {word : Text} (nonempty : word ≠ []) (chars : word.all isWordChar = true)
    (other : isTypeWord word = false) : scan word = [⟨word, .identifier⟩] := by
  have inside : ∀ c ∈ word, inChunk c = true := fun c member =>
    inChunk_of_isWordChar (List.all_eq_true.1 chars c member)
  rw [scan_chunk nonempty inside, ofChunk?, if_neg (by simp [other]), if_pos chars]
  rfl

end Cutting

theorem scan_word {word : Text} (visible : ∀ c ∈ word, Text.isBlank c = false) :
    scan word = (Text.words word).flatMap scan := by
  by_cases empty : word = []
  · subst empty
    simp [scan, Text.words, Text.pieces]
  · rw [Text.words_of_not_blank empty visible, List.flatMap_singleton]

-- The induction is on what follows the part of a word that was already passed.
theorem scan_append_words {front : Text} (visible : ∀ c ∈ front, Text.isBlank c = false)
    (text : Text) : scan (front ++ text) = (Text.words (front ++ text)).flatMap scan := by
  induction text generalizing front with
  | nil =>
    rw [List.append_nil]
    exact scan_word visible
  | cons c rest ih =>
    cases blank : Text.isBlank c with
    | true =>
      rw [scan_append_blank blank, Text.words_append_cons blank, List.flatMap_append,
        scan_word visible]
      exact congrArg _ (@ih [] (by simp))
    | false =>
      have longer : ∀ d ∈ front ++ [c], Text.isBlank d = false := by
        simpa [or_imp, forall_and, blank] using visible
      simpa using ih longer

theorem scan_eq_flatMap_words (text : Text) : scan text = (Text.words text).flatMap scan :=
  @scan_append_words [] (by simp) text

section Kinds

theorem opening_of_ofFragment {fragment : Text} {token : Token}
    (found : ofFragment? fragment = some token) (kind : token.kind = .leftParenthesis) :
    fragment = ['('] := by
  unfold ofFragment? at found
  split at found
  case h_1 => rfl
  case h_5 =>
    split at found
    · cases found
      cases kind
    · split at found
      · cases found
        cases kind
      · cases found
  all_goals
    cases found
    cases kind

theorem opening_of_mem_scan {text : Text} {token : Token} (member : token ∈ scan text)
    (kind : token.kind = .leftParenthesis) : '(' ∈ text := by
  rw [scan_eq_split, split] at member
  obtain ⟨fragment, inside, found⟩ := List.mem_filterMap.1 member
  rw [← Text.flatten_fragments isBoundary text, List.mem_flatten]
  exact ⟨fragment, inside, by simp [opening_of_ofFragment found kind]⟩

end Kinds
end FunctionCalculator.Token
