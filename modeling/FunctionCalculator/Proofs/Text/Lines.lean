import FunctionCalculator.Text.Basic
/-!
How texts start, the line feed at their end, and the line ends within them.
-/

set_option autoImplicit false

namespace FunctionCalculator.Text

-- A literal is compared as the list of its characters; its bytes are not looked at.
theorem not_mem_toList {chars : List Char} {c : Char} (missing : c ∉ chars) :
    c ∉ (String.ofList chars).toList := by
  rwa [String.toList_ofList]

theorem startsWith_iff {start text : Text} : startsWith start text = true ↔ start <+: text :=
  List.isPrefixOf_iff_prefix

theorem startsWith_append (start rest : Text) : startsWith start (start ++ rest) = true :=
  startsWith_iff.2 (List.prefix_append start rest)

theorem head_of_startsWith {start text : Text} {c : Char} (head : start.head? = some c)
    (starts : startsWith start text = true) : text.head? = some c := by
  obtain ⟨rest, rfl⟩ := startsWith_iff.1 starts
  rw [List.head?_append, head, Option.some_or]

def dropFinalLineFeed (text : Text) : Text :=
  if text.getLast? = some '\n' then text.dropLast else text

theorem dropFinalLineFeed_append (text : Text) : dropFinalLineFeed (text ++ ['\n']) = text := by
  simp [dropFinalLineFeed]

theorem eq_of_unended {text line : Text} (unended : text.getLast? ≠ some '\n')
    (whole : text = line ∨ text = line ++ ['\n']) : line = text := by
  rcases whole with same | ended
  · exact same.symm
  · exact absurd (ended ▸ List.getLast?_concat) unended

theorem mem_of_mem_dropFinalLineFeed {text : Text} {c : Char}
    (member : c ∈ dropFinalLineFeed text) :
    c ∈ text := by
  unfold dropFinalLineFeed at member
  split at member
  · exact List.dropLast_subset text member
  · exact member

/-- A text has one line feed for each line end of the contents, whether this is a line feed, a
carriage return, or one with a line feed after it. -/
inductive Unified : Text → Text → Prop
  | nil : Unified [] []
  | pair {contents text : Text} (rest : Unified contents text) :
    Unified ('\r' :: '\n' :: contents) ('\n' :: text)
  | single {contents text : Text} (alone : contents.head? ≠ some '\n')
    (rest : Unified contents text) : Unified ('\r' :: contents) ('\n' :: text)
  | kept {c : Char} {contents text : Text} (other : c ≠ '\r') (rest : Unified contents text) :
    Unified (c :: contents) (c :: text)

theorem unified_unifyLineEnds (contents : Text) : Unified contents contents.unifyLineEnds := by
  fun_induction unifyLineEnds contents with
  | case1 => exact .nil
  | case2 rest ih => exact .pair ih
  | case3 c rest unpaired ih =>
    by_cases carriage : c = '\r'
    · rw [if_pos carriage]
      subst carriage
      refine .single (fun head => ?_) ih
      obtain ⟨after, paired⟩ := List.head?_eq_some_iff.1 head
      exact unpaired after rfl paired
    · rw [if_neg carriage]
      exact .kept carriage ih

theorem Unified.eq_unifyLineEnds {contents text : Text} (unified : Unified contents text) :
    text = contents.unifyLineEnds := by
  induction unified with
  | nil => rfl
  | pair rest ih => rw [unifyLineEnds, ih]
  | single alone rest ih =>
    rw [unifyLineEnds, if_pos rfl, ih]
    rintro after - rfl
    exact alone rfl
  | kept other rest ih =>
    rw [unifyLineEnds, if_neg other, ih]
    rintro after rfl
    exact absurd rfl other

end FunctionCalculator.Text
