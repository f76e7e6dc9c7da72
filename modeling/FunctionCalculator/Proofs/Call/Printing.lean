import FunctionCalculator.Call
import FunctionCalculator.Proofs.Text.Trim
import Mathlib.Data.List.Forall2
import Mathlib.Tactic.MkIffOfInductiveProp
/-!
Printing a call and parsing it undo each other. The calls that can be printed are exactly those
that parsing gives.
-/

set_option autoImplicit false

namespace FunctionCalculator.Call

@[mk_iff]
structure IsWord (word : Text) : Prop where
  nonempty : word ≠ []
  visible : ∀ c ∈ word, Text.isBlank c = false
  noOpening : '(' ∉ word
  noClosing : ')' ∉ word

@[mk_iff]
structure IsArgument (argument : Text) : Prop where
  trimmed : Text.Trimmed argument
  noComma : ',' ∉ argument
  noClosing : ')' ∉ argument

instance : DecidablePred IsWord := fun word =>
  letI := List.decidableBAll (Text.isBlank · = false) word
  decidable_of_iff' _ (isWord_iff word)

instance : DecidablePred IsArgument := fun argument => decidable_of_iff' _ (isArgument_iff argument)

/-- The calls that can be printed. One empty argument alone would look like no argument. -/
@[mk_iff]
structure Printable (call : Call) : Prop where
  name : IsWord call.name
  arguments : ∀ argument ∈ call.arguments, IsArgument argument
  notBlank : call.arguments ≠ [[]]

instance : DecidablePred Printable := fun call => decidable_of_iff' _ (printable_iff call)

def Listed (arguments : List Text) (inside : Text) : Prop :=
  ∃ padded, List.Forall₂ Text.Padded arguments padded ∧ inside = Text.join [','] padded

def outline (type name inside : Text) : Text := type ++ ' ' :: name ++ '(' :: inside ++ [')']

/-- The texts of a call after a type word, with a semicolon at the end or without it. -/
inductive Printed (type : Text) (call : Call) : Text → Prop
  | bare {inside : Text} (listed : Listed call.arguments inside) :
    Printed type call (outline type call.name inside)
  | closed {inside : Text} (listed : Listed call.arguments inside) :
    Printed type call (outline type call.name inside ++ [';'])

section Parsing

variable {header inside rest : Text}

theorem splitParentheses_of_opening (noOpening : '(' ∉ header) (after : Text) :
    splitParentheses? (header ++ '(' :: after) =
      if ')' ∈ header ∨ ')' ∉ after then none else some (header, after.takeWhile (· ≠ ')')) := by
  simp only [splitParentheses?, Text.takeWhile_ne_append noOpening,
    Text.dropWhile_ne_append noOpening]

theorem splitParentheses_of_not_mem {text : Text} (missing : '(' ∉ text) :
    splitParentheses? text = none := by
  have emptied : text.dropWhile (· ≠ '(') = [] := by
    rw [List.dropWhile_eq_nil_iff]
    intro c member
    simpa using ne_of_mem_of_not_mem member missing
  simp only [splitParentheses?, emptied]

/-- The header ends at the first opening parenthesis and the inside at the first closing one, which
comes after it. -/
theorem splitParentheses_eq_some {text : Text} :
    splitParentheses? text = some (header, inside) ↔
      ('(' ∉ header ∧ ')' ∉ header ∧ ')' ∉ inside) ∧
        ∃ rest, text = header ++ '(' :: inside ++ ')' :: rest := by
  constructor
  · intro split
    by_cases opening : '(' ∈ text
    · obtain ⟨front, after, rfl, noOpening⟩ := List.eq_append_cons_of_mem opening
      rw [splitParentheses_of_opening noOpening] at split
      split at split
      · cases split
      · next closed =>
        obtain ⟨noClosing, closing⟩ := not_or.1 closed
        obtain ⟨within, rest, rfl, unclosed⟩ := List.eq_append_cons_of_mem (not_not.1 closing)
        rw [Text.takeWhile_ne_append unclosed, Option.some.injEq, Prod.mk.injEq] at split
        obtain ⟨rfl, rfl⟩ := split
        exact ⟨⟨noOpening, noClosing, unclosed⟩, rest, by simp⟩
    · rw [splitParentheses_of_not_mem opening] at split
      cases split
  · rintro ⟨⟨noOpening, noClosing, unclosed⟩, rest, rfl⟩
    rw [List.append_assoc, List.cons_append, splitParentheses_of_opening noOpening,
      Text.takeWhile_ne_append unclosed, if_neg (by simp [noClosing])]

theorem words_prepend {type : Text} (first : IsWord type) (header : Text) :
    Text.words (type ++ ' ' :: header) = type :: Text.words header := by
  rw [Text.words_append_cons (by decide), Text.words_of_not_blank first.nonempty first.visible,
    List.singleton_append]

theorem words_header {type name : Text} (first : IsWord type) (second : IsWord name) :
    Text.words (type ++ ' ' :: name) = [type, name] := by
  rw [words_prepend first, Text.words_of_not_blank second.nonempty second.visible]

end Parsing

section Arguments

variable {arguments : List Text} {inside : Text}

theorem argumentsOf_eq (inside : Text) : argumentsOf inside =
    if inside.trim = [] then [] else (splitCommas inside.trim).map Text.trim := rfl

theorem map_trim_padded {padded : List Text} (pads : List.Forall₂ Text.Padded arguments padded)
    (valid : ∀ argument ∈ arguments, IsArgument argument) : padded.map Text.trim = arguments := by
  induction pads with
  | nil => rfl
  | @cons argument text arguments padded first _ ih =>
    have trimmed := (valid argument List.mem_cons_self).trimmed
    rw [List.map_cons, first.trim_of_trimmed trimmed,
      ih fun other member => valid other (List.mem_cons_of_mem argument member)]

theorem padded_free {padded : List Text} (pads : List.Forall₂ Text.Padded arguments padded)
    {c : Char} (visible : Text.isBlank c = false) (free : ∀ argument ∈ arguments, c ∉ argument) :
    ∀ text ∈ padded, c ∉ text := by
  induction pads with
  | nil => simp
  | @cons argument text arguments padded first _ ih =>
    refine List.forall_mem_cons.2
      ⟨mt (first.mem_iff visible).1 (free argument List.mem_cons_self), ?_⟩
    exact ih fun other member => free other (List.mem_cons_of_mem argument member)

theorem comma_of_blank (c : Char) (blank : Text.isBlank c = true) : decide (c = ',') = false := by
  rw [decide_eq_false_iff_not]
  rintro rfl
  exact absurd blank (by decide)

theorem argumentsOf_listed (listed : Listed arguments inside)
    (valid : ∀ argument ∈ arguments, IsArgument argument) (notBlank : arguments ≠ [[]]) :
    argumentsOf inside = arguments := by
  obtain ⟨padded, pads, rfl⟩ := listed
  have free := padded_free pads (by decide) fun argument member => (valid argument member).noComma
  have same : (splitCommas (Text.join [','] padded).trim).map Text.trim =
      (splitCommas (Text.join [','] padded)).map Text.trim :=
    Text.map_trim_pieces_trim comma_of_blank _
  by_cases empty : padded = []
  · subst empty
    cases pads
    rfl
  · rw [splitCommas, splitCommas, Text.pieces_join empty free, map_trim_padded pads valid] at same
    rw [argumentsOf_eq]
    split
    · next blank =>
      rw [blank] at same
      exact absurd same.symm notBlank
    · exact same

theorem not_mem_listed (listed : Listed arguments inside)
    (valid : ∀ argument ∈ arguments, IsArgument argument) : ')' ∉ inside := by
  obtain ⟨padded, pads, rfl⟩ := listed
  have free := padded_free pads (by decide) fun argument member => (valid argument member).noClosing
  intro member
  obtain separates | ⟨text, inside, found⟩ := Text.mem_join member
  · exact absurd separates (by decide)
  · exact free text inside found

theorem isArgument_of_mem_argumentsOf (unclosed : ')' ∉ inside) :
    ∀ argument ∈ argumentsOf inside, IsArgument argument := by
  intro argument member
  rw [argumentsOf_eq] at member
  split at member
  · cases member
  · obtain ⟨piece, split, rfl⟩ := List.mem_map.1 member
    refine ⟨Text.trimmed_trim piece, fun comma => ?_, fun closing => ?_⟩
    · simpa using Text.uncut_of_mem_pieces split _ (Text.mem_of_mem_trim comma)
    · have inner := Text.mem_of_mem_pieces split (Text.mem_of_mem_trim closing)
      exact unclosed (Text.mem_of_mem_trim inner)

-- One empty argument would come from a blank text, which has no arguments.
theorem argumentsOf_ne_blank (inside : Text) : argumentsOf inside ≠ [[]] := by
  rw [argumentsOf_eq]
  split
  · nofun
  · next nonblank =>
    intro single
    obtain ⟨piece, split, blank⟩ := List.map_eq_singleton_iff.1 single
    have whole := Text.join_pieces ',' inside.trim
    rw [show Text.pieces (· = ',') inside.trim = [piece] from split, Text.join,
      List.intercalate_singleton] at whole
    subst whole
    exact nonblank ((Text.trimmed_trim inside).symm.trans blank)

end Arguments

section Calls

variable {text : Text} {call : Call}

theorem parse_of_split {header inside type : Text} {others : List Text}
    (split : splitParentheses? (dropSemicolon text) = some (header, inside))
    (words : Text.words header = type :: call.name :: others) :
    parse text = .ok ⟨call.name, argumentsOf inside⟩ := by
  simp [parse, split, words]

theorem dropSemicolon_append (text : Text) : dropSemicolon (text ++ [';']) = text := by
  simp [dropSemicolon]

theorem dropSemicolon_outline (type name inside : Text) :
    dropSemicolon (outline type name inside) = outline type name inside := by
  have last : (outline type name inside).getLast? = some ')' := List.getLast?_concat
  simp [dropSemicolon, last]

theorem parse_printed {type : Text} (word : IsWord type) (printable : Printable call)
    (printed : Printed type call text) : parse text = .ok call := by
  have core {inside : Text} (listed : Listed call.arguments inside)
      (dropped : dropSemicolon text = outline type call.name inside) : parse text = .ok call := by
    have split :
        splitParentheses? (dropSemicolon text) = some (type ++ ' ' :: call.name, inside) := by
      rw [dropped, splitParentheses_eq_some]
      refine ⟨⟨?_, ?_, not_mem_listed listed printable.arguments⟩, [], rfl⟩
      · simp [word.noOpening, printable.name.noOpening]
      · simp [word.noClosing, printable.name.noClosing]
    rw [parse_of_split split (words_header word printable.name),
      argumentsOf_listed listed printable.arguments printable.notBlank]
  cases printed with
  | bare listed => exact core listed (dropSemicolon_outline ..)
  | closed listed => exact core listed (dropSemicolon_append _)

theorem printable_of_parse (parsed : parse text = .ok call) : Printable call := by
  unfold parse at parsed
  split at parsed
  · cases parsed
  · next header inside split =>
    obtain ⟨⟨noOpening, noClosing, unclosed⟩, -⟩ := splitParentheses_eq_some.1 split
    split at parsed
    · next type name others words =>
      obtain rfl := Except.ok.inj parsed
      have member : name ∈ Text.words header := by simp [words]
      exact {
        name := {
          nonempty := Text.ne_nil_of_mem_words member
          visible := Text.not_blank_of_mem_words member
          noOpening := mt (Text.mem_of_mem_words member) noOpening
          noClosing := mt (Text.mem_of_mem_words member) noClosing }
        arguments := isArgument_of_mem_argumentsOf unclosed
        notBlank := argumentsOf_ne_blank inside }
    · cases parsed

end Calls

theorem parse_print_inverse :
    (∀ (type : Text) (call : Call) (text : Text), IsWord type → Printable call →
        Printed type call text → parse text = .ok call) ∧
      ∀ (text : Text) (call : Call), parse text = .ok call → Printable call :=
  ⟨fun _ _ _ word printable printed => parse_printed word printable printed,
    fun _ _ parsed => printable_of_parse parsed⟩

theorem parse_print_inverse_blanks :
    let call : Call := ⟨"add", ["", "a b", "x(1;"]⟩
    let text : Text := "int add( , a b ,x(1; );"
    (IsWord "int" ∧ Printable call ∧ Printed "int" call text) ∧
      parse text = .ok call ∧ Printable call := by
  intro call text
  have word : IsWord "int" := by decide
  have printable : Printable call := by decide
  have listed : Listed call.arguments " , a b ,x(1; " := by
    refine ⟨[" ", " a b ", "x(1; "], ?_, rfl⟩
    refine .cons ⟨" ", [], by decide, by decide, rfl⟩ ?_
    refine .cons ⟨" ", " ", by decide, by decide, rfl⟩ ?_
    exact .cons ⟨[], " ", by decide, by decide, rfl⟩ .nil
  have printed : Printed "int" call text := .closed listed
  have parsed : parse text = .ok call := by decide +kernel
  exact ⟨⟨word, printable, printed⟩, parse_print_inverse.1 "int" call text word printable printed,
    parse_print_inverse.2 text call parsed⟩

end FunctionCalculator.Call
