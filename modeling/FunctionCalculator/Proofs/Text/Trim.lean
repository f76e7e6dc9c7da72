import FunctionCalculator.Proofs.Text.Pieces
import Mathlib.Data.List.DropRight
import Mathlib.Data.List.TakeWhile
/-!
Trimming and padding: a trimmed text is what remains between blank characters, and it comes back
however it was padded.
-/

set_option autoImplicit false

namespace FunctionCalculator.Text

def Blank (text : Text) : Prop := ∀ c ∈ text, isBlank c = true

def Trimmed (text : Text) : Prop := text.trim = text

instance : DecidablePred Blank := List.decidableBAll (isBlank · = true)

instance : DecidablePred Trimmed := fun text => inferInstanceAs (Decidable (text.trim = text))

def Padded (text padded : Text) : Prop :=
  ∃ before after, Blank before ∧ Blank after ∧ padded = before ++ text ++ after

theorem not_blank_of_inRanges (ranges : List (Nat × Nat))
    (apart : ∀ range ∈ ranges, ∀ blank ∈ blankRanges, range.2 < blank.1 ∨ blank.2 < range.1)
    {c : Char} (inside : inRanges ranges c = true) : isBlank c = false := by
  obtain ⟨range, member, within⟩ := List.any_eq_true.1 inside
  refine List.any_eq_false.2 fun blank blankMember => ?_
  have := apart range member blank blankMember
  simp only [Bool.and_eq_true, decide_eq_true_eq] at within ⊢
  omega

variable {text padded : Text}

theorem Padded.refl (text : Text) : Padded text text :=
  ⟨[], [], nofun, nofun, by simp⟩

theorem trimLeft_append {before : Text} (blank : Blank before) (text : Text) :
    trimLeft (before ++ text) = trimLeft text :=
  List.dropWhile_append_of_pos blank

theorem trimRight_append {after : Text} (blank : Blank after) (text : Text) :
    trimRight (text ++ after) = trimRight text := by
  have reversed : Blank after.reverse := fun c member => blank c (List.mem_reverse.1 member)
  rw [trimRight, trimRight, List.reverse_append, List.dropWhile_append_of_pos reversed]

theorem trim_append {after : Text} (blank : Blank after) (text : Text) :
    trim (text ++ after) = trim text := by
  unfold trim trimLeft
  rw [List.dropWhile_append]
  split
  · next blanks =>
    rw [List.isEmpty_iff.1 blanks, List.dropWhile_eq_nil_iff.2 blank]
  · exact trimRight_append blank _

-- A text that goes on keeps at its right end what was trimmed there, or trims as much.
theorem trimRight_prefix_append (text after : Text) :
    trimRight text <+: trimRight (text ++ after) := by
  rw [trimRight, trimRight, List.reverse_append, List.dropWhile_append]
  split
  · exact List.prefix_rfl
  · rw [List.reverse_append, List.reverse_reverse]
    exact (List.rdropWhile_prefix isBlank text).trans (List.prefix_append text _)

theorem trim_prefix_append (text after : Text) : text.trim <+: (text ++ after).trim := by
  unfold trim trimLeft
  rw [List.dropWhile_append]
  split
  · next blank =>
    rw [List.isEmpty_iff.1 blank]
    exact List.nil_prefix
  · exact trimRight_prefix_append _ after

theorem Padded.trim_eq (pads : Padded text padded) : padded.trim = text.trim := by
  obtain ⟨before, after, left, right, rfl⟩ := pads
  rw [List.append_assoc, trim, trimLeft_append left]
  exact trim_append right text

theorem padded_trim (text : Text) : Padded text.trim text := by
  refine ⟨text.takeWhile isBlank, ((trimLeft text).reverse.takeWhile isBlank).reverse, ?_, ?_, ?_⟩
  · exact fun c member => List.mem_takeWhile_imp member
  · exact fun c member => List.mem_takeWhile_imp (List.mem_reverse.1 member)
  · rw [trim, trimRight, List.append_assoc, ← List.reverse_append, List.takeWhile_append_dropWhile,
      List.reverse_reverse, trimLeft, List.takeWhile_append_dropWhile]

theorem trimmed_trim (text : Text) : Trimmed text.trim := (padded_trim text).trim_eq.symm

theorem Padded.trim_of_trimmed (pads : Padded text padded) (trimmed : Trimmed text) :
    padded.trim = text :=
  pads.trim_eq.trans trimmed

theorem Padded.mem_of_mem (pads : Padded text padded) {c : Char} (member : c ∈ text) :
    c ∈ padded := by
  obtain ⟨before, after, -, -, rfl⟩ := pads
  simp [member]

theorem Padded.mem_iff (pads : Padded text padded) {c : Char} (visible : isBlank c = false) :
    c ∈ padded ↔ c ∈ text := by
  refine ⟨fun member => ?_, pads.mem_of_mem⟩
  obtain ⟨before, after, left, right, rfl⟩ := pads
  simp only [List.mem_append] at member
  obtain (member | member) | member := member
  · simp [left c member] at visible
  · exact member
  · simp [right c member] at visible

theorem mem_of_mem_trim {c : Char} (member : c ∈ text.trim) : c ∈ text :=
  (padded_trim text).mem_of_mem member

theorem trimmed_of_not_blank (visible : ∀ c ∈ text, isBlank c = false) : Trimmed text := by
  have stays : ∀ {text : Text},
      (∀ c ∈ text, isBlank c = false) → text.dropWhile isBlank = text := by
    intro text visible
    cases text with
    | nil => rfl
    | cons c rest => simp [visible c]
  have reversed : ∀ c ∈ text.reverse, isBlank c = false := by simpa using visible
  rw [Trimmed, trim, trimLeft, stays visible, trimRight, stays reversed, List.reverse_reverse]

theorem words_of_blank {text : Text} (blank : Blank text) : words text = [] := by
  induction text with
  | nil => rfl
  | cons c rest ih =>
    obtain ⟨first, others⟩ := List.forall_mem_cons.1 blank
    exact (words_append_cons first [] rest).trans (ih others)

theorem words_append_blank {after : Text} (blank : Blank after) (text : Text) :
    words (text ++ after) = words text := by
  cases after with
  | nil => rw [List.append_nil]
  | cons c rest =>
    obtain ⟨first, others⟩ := List.forall_mem_cons.1 blank
    rw [words_append_cons first, words_of_blank others, List.append_nil]

theorem words_blank_append {before : Text} (blank : Blank before) (text : Text) :
    words (before ++ text) = words text := by
  induction before with
  | nil => rfl
  | cons c rest ih =>
    obtain ⟨first, others⟩ := List.forall_mem_cons.1 blank
    exact (words_append_cons first [] (rest ++ text)).trans (ih others)

theorem words_trim (text : Text) : words text.trim = words text := by
  obtain ⟨before, after, left, right, whole⟩ := padded_trim text
  have padded : words text = words (before ++ text.trim ++ after) := congrArg words whole
  rw [padded, words_append_blank right, words_blank_append left]

theorem map_trim_pieces_of_padded {cut : Char → Bool}
    (visible : ∀ c, isBlank c = true → cut c = false) (pads : Padded text padded) :
    (pieces cut padded).map trim = (pieces cut text).map trim := by
  obtain ⟨before, after, left, right, rfl⟩ := pads
  obtain ⟨front, last, inner, outer⟩ :=
    pieces_append_end (fun c member => visible c (right c member)) text
  obtain ⟨first, others, split⟩ := pieces_exists_cons cut (text ++ after)
  have start : trim (before ++ first) = trim first := by rw [trim, trimLeft_append left, trim]
  rw [List.append_assoc, pieces_append (fun c member => visible c (left c member)), split,
    List.modifyHead_cons, List.map_cons, start, ← List.map_cons, ← split, outer, inner,
    List.map_append, List.map_append, List.map_singleton, List.map_singleton, trim_append right]

theorem map_trim_pieces_trim {cut : Char → Bool} (visible : ∀ c, isBlank c = true → cut c = false)
    (text : Text) : (pieces cut text.trim).map trim = (pieces cut text).map trim :=
  (map_trim_pieces_of_padded visible (padded_trim text)).symm

end FunctionCalculator.Text
