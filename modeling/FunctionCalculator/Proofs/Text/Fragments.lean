import FunctionCalculator.Proofs.Text.Pieces
import Mathlib.Data.List.TakeWhile
/-!
Cutting a text at chosen characters without losing them: its pieces and the characters it is cut at
take turns, in the order of the text.
-/

set_option autoImplicit false

namespace FunctionCalculator.Text

def alternate {α : Type} : List α → List α → List α
  | [], _ => []
  | item :: items, [] => item :: items
  | item :: items, other :: others => item :: other :: alternate items others

/-- The pieces of a text and, between them, the characters it is cut at. -/
def fragments (cut : Char → Bool) (text : Text) : List Text :=
  alternate (pieces cut text) ((text.filter cut).map ([·]))

variable {cut : Char → Bool}

@[simp] theorem alternate_modifyHead {α : Type} (f : α → α) (items others : List α) :
    alternate (items.modifyHead f) others = (alternate items others).modifyHead f := by
  cases items with
  | nil => rfl
  | cons item items => cases others <;> rfl

theorem fragments_cons_cut {c : Char} (hit : cut c = true) (rest : Text) :
    fragments cut (c :: rest) = [] :: [c] :: fragments cut rest := by
  simp [fragments, pieces, hit, alternate]

theorem fragments_cons_uncut {c : Char} (miss : cut c = false) (rest : Text) :
    fragments cut (c :: rest) = (fragments cut rest).modifyHead (c :: ·) := by
  simp [fragments, pieces, miss]

theorem fragments_append {chunk : Text} (uncut : ∀ c ∈ chunk, cut c = false) (rest : Text) :
    fragments cut (chunk ++ rest) = (fragments cut rest).modifyHead (chunk ++ ·) := by
  have kept : (chunk ++ rest).filter cut = rest.filter cut := by
    rw [List.filter_append, List.filter_eq_nil_iff.2 (by simpa using uncut), List.nil_append]
  rw [fragments, pieces_append uncut, kept, alternate_modifyHead, fragments]

theorem fragments_exists_cons (cut : Char → Bool) (text : Text) :
    ∃ first rest, fragments cut text = first :: rest := by
  obtain ⟨first, others, split⟩ := pieces_exists_cons cut text
  rw [fragments, split]
  cases (text.filter cut).map ([·]) <;> exact ⟨_, _, rfl⟩

theorem fragments_of_uncut {text : Text} (uncut : ∀ c ∈ text, cut c = false) :
    fragments cut text = [text] := by
  have whole := fragments_append uncut []
  have last : fragments cut [] = [[]] := rfl
  rwa [last, List.modifyHead_cons, List.append_nil] at whole

theorem fragments_append_cons {c : Char} (hit : cut c = true) (front back : Text) :
    fragments cut (front ++ c :: back) = fragments cut front ++ [c] :: fragments cut back := by
  induction front with
  | nil => exact fragments_cons_cut hit back
  | cons d front ih =>
    cases also : cut d with
    | true => simp only [List.cons_append, fragments_cons_cut also, ih]
    | false =>
      obtain ⟨first, others, split⟩ := fragments_exists_cons cut front
      simp only [List.cons_append, fragments_cons_uncut also, ih, split, List.modifyHead_cons]

theorem fragments_of_stop {text : Text} (stops : ∀ c, text.head? = some c → cut c = true) :
    ∃ rest, fragments cut text = [] :: rest := by
  cases text with
  | nil => exact ⟨[], rfl⟩
  | cons c rest => exact ⟨_, fragments_cons_cut (stops c rfl) rest⟩

/-- A longest run of characters that the text is not cut at is a fragment, and what follows it goes
on after an empty piece. -/
theorem fragments_run {c : Char} (starts : cut c = false) (rest : Text) :
    ∃ others, (∀ d ∈ c :: rest.takeWhile (!cut ·), cut d = false) ∧
      fragments cut (c :: rest) = (c :: rest.takeWhile (!cut ·)) :: others ∧
      fragments cut (rest.dropWhile (!cut ·)) = [] :: others := by
  have run : ∀ d ∈ c :: rest.takeWhile (!cut ·), cut d = false := by
    intro d member
    rcases List.mem_cons.1 member with rfl | member
    · exact starts
    · simpa using List.mem_takeWhile_imp member
  have stops : ∀ d, (rest.dropWhile (!cut ·)).head? = some d → cut d = true := by
    intro d first
    have := List.head?_dropWhile_not (!cut ·) rest
    simpa [first] using this
  obtain ⟨others, after⟩ := fragments_of_stop stops
  have whole := fragments_append run (rest.dropWhile (!cut ·))
  rw [List.cons_append, List.takeWhile_append_dropWhile, after, List.modifyHead_cons,
    List.append_nil] at whole
  exact ⟨others, run, whole, after⟩

theorem mem_fragments {text fragment : Text} (member : fragment ∈ fragments cut text) :
    fragment ∈ pieces cut text ∨ ∃ c, fragment = [c] := by
  have alternates : ∀ items others : List Text, fragment ∈ alternate items others →
      fragment ∈ items ∨ fragment ∈ others := by
    intro items others
    fun_induction alternate items others with
    | case1 => simp
    | case2 => simp_all
    | case3 item items other others ih =>
      simp only [List.mem_cons]
      grind
  rcases alternates _ _ member with piece | sign
  · exact .inl piece
  · obtain ⟨c, -, rfl⟩ := List.mem_map.1 sign
    exact .inr ⟨c, rfl⟩

theorem flatten_fragments (cut : Char → Bool) (text : Text) :
    (fragments cut text).flatten = text := by
  induction text with
  | nil => rfl
  | cons c rest ih =>
    cases hit : cut c with
    | true => simp [fragments_cons_cut hit, ih]
    | false =>
      obtain ⟨first, others, split⟩ := fragments_exists_cons cut rest
      rw [split] at ih
      rw [fragments_cons_uncut hit, split]
      simpa using ih

end FunctionCalculator.Text
