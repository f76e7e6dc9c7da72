import FunctionCalculator.Text.Basic
/-!
How the pieces of a text are found: cutting at two sets of characters one after the other, and
what a piece can hold.
-/

set_option autoImplicit false

namespace FunctionCalculator.Text

variable {cut : Char → Bool}

theorem pieces_eq_splitOnP (cut : Char → Bool) (text : Text) :
    pieces cut text = text.splitOnP cut := by
  induction text with
  | nil => rfl
  | cons c rest ih => rw [pieces, List.splitOnP_cons_eq_if_modifyHead, ih]

theorem pieces_ne_nil (cut : Char → Bool) (text : Text) : pieces cut text ≠ [] := by
  rw [pieces_eq_splitOnP]
  exact List.splitOnP_ne_nil cut text

theorem pieces_exists_cons (cut : Char → Bool) (text : Text) :
    ∃ first rest, pieces cut text = first :: rest :=
  List.exists_cons_of_ne_nil (pieces_ne_nil cut text)

theorem pieces_append {chunk : Text} (uncut : ∀ c ∈ chunk, cut c = false) (rest : Text) :
    pieces cut (chunk ++ rest) = (pieces cut rest).modifyHead (chunk ++ ·) := by
  obtain ⟨first, others, split⟩ := pieces_exists_cons cut rest
  induction chunk with
  | nil => simp [split]
  | cons c chunk ih =>
    have whole := ih (fun d member => uncut d (List.mem_cons_of_mem c member))
    rw [split] at whole ⊢
    simp [pieces, uncut c List.mem_cons_self, whole]

theorem pieces_cons_cut {c : Char} (hit : cut c = true) (rest : Text) :
    pieces cut (c :: rest) = [] :: pieces cut rest := by
  simp [pieces, hit]

theorem pieces_append_cons {c : Char} (hit : cut c = true) (front back : Text) :
    pieces cut (front ++ c :: back) = pieces cut front ++ pieces cut back := by
  simp only [pieces_eq_splitOnP, List.splitOnP_append_cons _ _ hit]

theorem pieces_or (outer inner : Char → Bool) (text : Text) :
    pieces (fun c => outer c || inner c) text = (pieces outer text).flatMap (pieces inner) := by
  induction text with
  | nil => rfl
  | cons c rest ih =>
    obtain ⟨first, others, split⟩ := pieces_exists_cons outer rest
    obtain ⟨head, tail, again⟩ := pieces_exists_cons inner first
    rw [split] at ih
    cases hit : outer c with
    | true => simp [pieces, hit, ih, split]
    | false => cases also : inner c <;> simp [pieces, hit, also, ih, split, again]

theorem pieces_of_uncut {text : Text} (uncut : ∀ c ∈ text, cut c = false) :
    pieces cut text = [text] := by
  rw [pieces_eq_splitOnP, List.splitOnP_eq_singleton uncut]

theorem uncut_of_not_mem {sign : Char} {text : Text} (free : sign ∉ text) :
    ∀ c ∈ text, decide (c = sign) = false := by
  intro c member
  simpa using ne_of_mem_of_not_mem member free

theorem pieces_of_not_mem {sign : Char} {text : Text} (free : sign ∉ text) :
    pieces (· = sign) text = [text] :=
  pieces_of_uncut (uncut_of_not_mem free)

theorem join_pieces (sign : Char) (text : Text) :
    join [sign] (pieces (· = sign) text) = text := by
  rw [pieces_eq_splitOnP]
  exact List.intercalate_splitOn sign

theorem pieces_join {sign : Char} {texts : List Text} (nonempty : texts ≠ [])
    (free : ∀ text ∈ texts, sign ∉ text) : pieces (· = sign) (join [sign] texts) = texts := by
  rw [pieces_eq_splitOnP]
  exact List.splitOn_intercalate sign free nonempty

theorem mem_join {separator : Text} {texts : List Text} {c : Char}
    (member : c ∈ join separator texts) : c ∈ separator ∨ ∃ text ∈ texts, c ∈ text := by
  induction texts with
  | nil => cases member
  | cons first others ih =>
    cases others with
    | nil => exact .inr ⟨first, List.mem_cons_self, by simpa [join] using member⟩
    | cons second others =>
      rw [join, List.intercalate_cons_cons, List.mem_append, List.mem_append] at member
      obtain (member | member) | member := member
      · exact .inr ⟨first, List.mem_cons_self, member⟩
      · exact .inl member
      · obtain separates | ⟨text, inside, found⟩ := ih member
        · exact .inl separates
        · exact .inr ⟨text, List.mem_cons_of_mem first inside, found⟩

theorem takeWhile_ne_append {sign : Char} {front : Text} (free : sign ∉ front) (rest : Text) :
    (front ++ sign :: rest).takeWhile (· ≠ sign) = front := by
  have other : ∀ c ∈ front, decide (c ≠ sign) = true := by simpa using uncut_of_not_mem free
  rw [List.takeWhile_append_of_pos other, List.takeWhile_cons_of_neg (by simp), List.append_nil]

theorem dropWhile_ne_append {sign : Char} {front : Text} (free : sign ∉ front) (rest : Text) :
    (front ++ sign :: rest).dropWhile (· ≠ sign) = sign :: rest := by
  have other : ∀ c ∈ front, decide (c ≠ sign) = true := by simpa using uncut_of_not_mem free
  rw [List.dropWhile_append_of_pos other, List.dropWhile_cons_of_neg (by simp)]

theorem pieces_append_end {chunk : Text} (uncut : ∀ c ∈ chunk, cut c = false) (text : Text) :
    ∃ front last, pieces cut text = front ++ [last] ∧
      pieces cut (text ++ chunk) = front ++ [last ++ chunk] := by
  induction text with
  | nil => exact ⟨[], [], rfl, pieces_of_uncut uncut⟩
  | cons c rest ih =>
    obtain ⟨front, last, before, after⟩ := ih
    cases hit : cut c with
    | true => exact ⟨[] :: front, last, by simp [pieces, hit, before], by simp [pieces, hit, after]⟩
    | false =>
      cases front with
      | nil => exact ⟨[], c :: last, by simp [pieces, hit, before], by simp [pieces, hit, after]⟩
      | cons first front =>
        exact ⟨(c :: first) :: front, last, by simp [pieces, hit, before],
          by simp [pieces, hit, after]⟩

theorem length_pieces_of_cut {text : Text} {c : Char} (member : c ∈ text) (hit : cut c = true) :
    2 ≤ (pieces cut text).length := by
  obtain ⟨front, back, rfl⟩ := List.append_of_mem member
  have first := List.length_pos_iff.2 (List.splitOnP_ne_nil cut front)
  have second := List.length_pos_iff.2 (List.splitOnP_ne_nil cut back)
  rw [pieces_eq_splitOnP, List.splitOnP_append_cons _ _ hit, List.length_append]
  omega

theorem uncut_of_mem_pieces {text piece : Text} (member : piece ∈ pieces cut text) :
    ∀ c ∈ piece, cut c = false := by
  induction text generalizing piece with
  | nil => simp_all [pieces]
  | cons d rest ih =>
    obtain ⟨first, others, split⟩ := pieces_exists_cons cut rest
    rw [split] at ih
    cases hit : cut d with
    | true =>
      rw [pieces_cons_cut hit, split] at member
      rcases List.mem_cons.1 member with rfl | member
      · simp
      · exact ih member
    | false =>
      simp only [pieces, hit, split] at member
      rcases List.mem_cons.1 member with rfl | member
      · exact List.forall_mem_cons.2 ⟨hit, ih List.mem_cons_self⟩
      · exact ih (List.mem_cons_of_mem first member)

theorem mem_of_mem_pieces {text piece : Text} (member : piece ∈ pieces cut text) {c : Char}
    (inside : c ∈ piece) : c ∈ text := by
  induction text generalizing piece with
  | nil => simp_all [pieces]
  | cons d rest ih =>
    obtain ⟨first, others, split⟩ := pieces_exists_cons cut rest
    rw [split] at ih
    cases hit : cut d with
    | true =>
      rw [pieces_cons_cut hit, split] at member
      rcases List.mem_cons.1 member with rfl | member
      · simp at inside
      · exact List.mem_cons_of_mem d (ih member inside)
    | false =>
      simp only [pieces, hit, split] at member
      rcases List.mem_cons.1 member with rfl | member
      · rcases List.mem_cons.1 inside with rfl | inside
        · exact List.mem_cons_self
        · exact List.mem_cons_of_mem d (ih List.mem_cons_self inside)
      · exact List.mem_cons_of_mem d (ih (List.mem_cons_of_mem first member) inside)

theorem not_blank_of_mem_words {text word : Text} (member : word ∈ words text) :
    ∀ c ∈ word, isBlank c = false :=
  uncut_of_mem_pieces (List.mem_filter.1 member).1

theorem ne_nil_of_mem_words {text word : Text} (member : word ∈ words text) : word ≠ [] := by
  simpa using (List.mem_filter.1 member).2

theorem mem_of_mem_words {text word : Text} (member : word ∈ words text) {c : Char}
    (inside : c ∈ word) : c ∈ text :=
  mem_of_mem_pieces (List.mem_filter.1 member).1 inside

theorem words_append_cons {c : Char} (blank : isBlank c = true) (front back : Text) :
    words (front ++ c :: back) = words front ++ words back := by
  rw [words, pieces_append_cons blank, List.filter_append, words, words]

theorem words_of_not_blank {word : Text} (nonempty : word ≠ [])
    (visible : ∀ c ∈ word, isBlank c = false) : words word = [word] := by
  simp [words, pieces_of_uncut visible, nonempty]

end FunctionCalculator.Text
