import FunctionCalculator.Proofs.Text.Fragments
import FunctionCalculator.Proofs.Text.Trim
import FunctionCalculator.Token
/-!
The tokens of a text without any scanner: the text is cut at its delimiters and at its blank
characters, the delimiters are kept, and every fragment is a token as a whole or none. The scanner
finds exactly these tokens, though the blanks that it passes over are fewer than those that end a
run.
-/

set_option autoImplicit false

namespace FunctionCalculator.Token

def isBoundary (c : Char) : Bool := c ∈ ['(', ')', ',', ';'] || Text.isBlank c

def asciiWordRanges : List (Nat × Nat) :=
  [('0'.toNat, '9'.toNat), ('A'.toNat, 'Z'.toNat), ('_'.toNat, '_'.toNat), ('a'.toNat, 'z'.toNat)]

def isAsciiWordChar (c : Char) : Bool := Text.inRanges asciiWordRanges c

def ofFragment? (fragment : Text) : Option Token :=
  match fragment with
  | ['('] => some ⟨"(", .leftParenthesis⟩
  | [')'] => some ⟨")", .rightParenthesis⟩
  | [','] => some ⟨",", .comma⟩
  | [';'] => some ⟨";", .semicolon⟩
  | chunk =>
    if chunk = "int" ∨ chunk = "double" ∨ chunk = "boolean" then some ⟨chunk, .typeWord⟩
    else if chunk ≠ [] ∧ chunk.all isAsciiWordChar then some ⟨chunk, .identifier⟩
    else none

def split (text : Text) : List Token := (Text.fragments isBoundary text).filterMap ofFragment?

section Characters

variable {c : Char}

theorem delimiter_eq_some {kind : TokenKind} (found : delimiter? c = some kind) :
    c = '(' ∧ kind = .leftParenthesis ∨ c = ')' ∧ kind = .rightParenthesis ∨
      c = ',' ∧ kind = .comma ∨ c = ';' ∧ kind = .semicolon := by
  unfold delimiter? at found
  grind

theorem isBoundary_eq (c : Char) : isBoundary c = !inChunk c := by
  unfold isBoundary inChunk delimiter?
  grind

theorem blank_of_skipped (skipped : isSkipped c = true) : Text.isBlank c = true := by
  simp only [isSkipped, Bool.or_eq_true, decide_eq_true_eq] at skipped
  obtain ((((rfl | rfl) | rfl) | rfl) | rfl) | rfl := skipped <;> decide

theorem blank_of_neither (outside : ¬ inChunk c = true) (other : delimiter? c = none) :
    Text.isBlank c = true := by
  simpa [inChunk, other] using outside

theorem isWordChar_eq : isWordChar = isAsciiWordChar := by
  funext c
  have underscore : c = '_' ↔ c.val.toNat = '_'.toNat := Char.toNat_inj.symm
  have alphanumeric : c.isAlphanum =
      (('A' ≤ c ∧ c ≤ 'Z' || 'a' ≤ c && c ≤ 'z') || '0' ≤ c && c ≤ '9') := rfl
  simp only [isWordChar, alphanumeric, isAsciiWordChar, Text.inRanges, asciiWordRanges,
    List.any_cons, List.any_nil, underscore, Char.le_def, UInt32.le_iff_toNat_le, Char.toNat]
  grind

theorem isAsciiWordChar_of_blank (blank : Text.isBlank c = true) : isAsciiWordChar c = false := by
  by_contra word
  have visible := Text.not_blank_of_inRanges asciiWordRanges (by decide)
    (Bool.not_eq_false _ ▸ word)
  simp [blank] at visible

end Characters

section Fragments

theorem ofFragment_delimiter {c : Char} {kind : TokenKind} (found : delimiter? c = some kind) :
    ofFragment? [c] = some ⟨[c], kind⟩ := by
  obtain ⟨rfl, rfl⟩ | ⟨rfl, rfl⟩ | ⟨rfl, rfl⟩ | ⟨rfl, rfl⟩ := delimiter_eq_some found <;> rfl

theorem ofFragment_chunk {chunk : Text} (nonempty : chunk ≠ [])
    (inside : ∀ c ∈ chunk, inChunk c = true) : ofFragment? chunk = ofChunk? chunk := by
  have whole : ∀ c, delimiter? c ≠ none → chunk ≠ [c] := by
    rintro c delimits rfl
    have := inside c List.mem_cons_self
    simp_all [inChunk]
  unfold ofFragment? ofChunk?
  split
  · exact absurd rfl (whole '(' (by decide))
  · exact absurd rfl (whole ')' (by decide))
  · exact absurd rfl (whole ',' (by decide))
  · exact absurd rfl (whole ';' (by decide))
  · simp only [isTypeWord, isWordChar_eq, ne_eq, nonempty, not_false_eq_true, true_and,
      Bool.or_eq_true, decide_eq_true_eq, or_assoc]

theorem ofFragment_nil : ofFragment? [] = none := rfl

theorem ofFragment_blank {c : Char} (blank : Text.isBlank c = true) : ofFragment? [c] = none := by
  unfold ofFragment?
  split
  case h_5 => simp [isAsciiWordChar_of_blank blank]
  all_goals
    next same =>
      obtain rfl := (List.cons.inj same).1
      exact absurd blank (by decide)

end Fragments

section Scanning

theorem split_cons_boundary {c : Char} (boundary : isBoundary c = true) (rest : Text) :
    split (c :: rest) = (ofFragment? [c]).toList ++ split rest := by
  rw [split, Text.fragments_cons_cut boundary, List.filterMap_cons_none rfl, List.filterMap_cons]
  cases ofFragment? [c] <;> rfl

theorem split_run {c : Char} (starts : inChunk c = true) (rest : Text) :
    split (c :: rest) =
      (ofChunk? (c :: rest.takeWhile inChunk)).toList ++ split (rest.dropWhile inChunk) := by
  have same : inChunk = (!isBoundary ·) := by
    funext d
    simp [isBoundary_eq]
  have uncut : isBoundary c = false := by simp [isBoundary_eq, starts]
  obtain ⟨others, run, whole, after⟩ := Text.fragments_run uncut rest
  have inside : ∀ d ∈ c :: rest.takeWhile (!isBoundary ·), inChunk d = true := by
    intro d member
    simp [same, run d member]
  rw [split, split, same, whole, after, List.filterMap_cons_none ofFragment_nil,
    List.filterMap_cons, ofFragment_chunk (List.cons_ne_nil _ _) inside]
  cases ofChunk? (c :: rest.takeWhile (!isBoundary ·)) <;> rfl

theorem scan_eq_split (text : Text) : scan text = split text := by
  fun_induction scan text with
  | case1 => rfl
  | case2 c rest skipped ih =>
    have blank := blank_of_skipped skipped
    rw [split_cons_boundary (by simp [isBoundary, blank]), ofFragment_blank blank, ih]
    rfl
  | case3 c rest passed starts ih => rw [split_run starts, ih]
  | case4 c rest passed outside kind found ih =>
    rw [split_cons_boundary (by simp [isBoundary_eq, outside]), ofFragment_delimiter found, ih]
    rfl
  | case5 c rest passed outside other ih =>
    have blank := blank_of_neither outside other
    rw [split_cons_boundary (by simp [isBoundary, blank]), ofFragment_blank blank, ih]
    rfl

/-- The scanner finds a token for every fragment that is one as a whole, in the order of the text,
and no character of the text is outside the fragments. -/
theorem scan_classifies_fragments (text : Text) :
    scan text = (Text.fragments isBoundary text).filterMap ofFragment? ∧
      (Text.fragments isBoundary text).flatten = text :=
  ⟨scan_eq_split text, Text.flatten_fragments isBoundary text⟩

example : scan "int a-b\u00a0(x;" =
    [⟨"int", .typeWord⟩, ⟨"(", .leftParenthesis⟩, ⟨"x", .identifier⟩, ⟨";", .semicolon⟩] := by
  decide +kernel

end Scanning
end FunctionCalculator.Token
