import FunctionCalculator.Proofs.Code.Pattern
/-!
Reading a listing back. Its lines end at line feeds, and on each line the destination ends at the
first equals sign between spaces. Arguments may hold as many of these as they like, because
destinations have no space.
-/

set_option autoImplicit false

namespace FunctionCalculator

def Text.cutAt? (separator : Text) (text : Text) : Option (Text × Text) :=
  match separator.isPrefixOf? text, text with
  | some back, _ => some ([], back)
  | none, [] => none
  | none, c :: rest => (cutAt? separator rest).map fun sides => (c :: sides.1, sides.2)

theorem Text.cutAt_append {mark : Char} {front : Text} (free : mark ∉ front)
    (separator back : Text) :
    cutAt? (mark :: separator) (front ++ mark :: separator ++ back) = some (front, back) := by
  induction front with
  | nil =>
    have found : (mark :: separator).isPrefixOf? (mark :: separator ++ back) = some back := by
      simp
    unfold cutAt?
    rw [List.nil_append, found]
  | cons c front ih =>
    obtain ⟨other, later⟩ := List.ne_and_not_mem_of_not_mem_cons free
    have missed : (mark :: separator).isPrefixOf? (c :: (front ++ mark :: separator ++ back)) =
        none := by
      simp [List.isPrefixOf?, other]
    unfold cutAt?
    rw [List.cons_append, List.cons_append, missed]
    simp only [ih later, Option.map_some]

def Text.lines? (text : Text) : Option (List Text) :=
  if (pieces (· = '\n') text).getLast? = some [] then some (pieces (· = '\n') text).dropLast
  else none

namespace Code

def decode (listing : Text) : Option (List (Text × Text)) :=
  (Text.lines? listing).bind fun lines => lines.mapM (Text.cutAt? [' ', '=', ' '])

/-- Sides that can be told apart on one line. -/
structure Legible (sides : Text × Text) : Prop where
  joined : ' ' ∉ sides.1
  left : '\n' ∉ sides.1
  right : '\n' ∉ sides.2

section Lines

variable {code : List (Text × Text)}

def equation (sides : Text × Text) : Text := sides.1 ++ [' ', '=', ' '] ++ sides.2

theorem pieces_render (legible : ∀ sides ∈ code, Legible sides) :
    Text.pieces (· = '\n') (render code) = code.map equation ++ [[]] := by
  induction code with
  | nil => rfl
  | cons sides rest ih =>
    obtain ⟨first, others⟩ := List.forall_mem_cons.1 legible
    have whole : '\n' ∉ equation sides := by
      simp [equation, first.left, first.right]
    have line : render (sides :: rest) = equation sides ++ '\n' :: render rest := by
      simp [render, equation]
    rw [line, Text.pieces_append_cons (by decide), Text.pieces_of_not_mem whole, ih others]
    rfl

theorem lines_render (legible : ∀ sides ∈ code, Legible sides) :
    Text.lines? (render code) = some (code.map equation) := by
  rw [Text.lines?, pieces_render legible, List.getLast?_concat, List.dropLast_concat, if_pos rfl]

theorem mapM_cutAt (legible : ∀ sides ∈ code, Legible sides) :
    (code.map equation).mapM (Text.cutAt? [' ', '=', ' ']) = some code := by
  induction code with
  | nil => rfl
  | cons sides rest ih =>
    obtain ⟨first, others⟩ := List.forall_mem_cons.1 legible
    have cut : Text.cutAt? [' ', '=', ' '] (equation sides) = some sides :=
      Text.cutAt_append first.joined ['=', ' '] sides.2
    rw [List.map_cons, List.mapM_cons, cut, ih others]
    rfl

theorem decode_render (legible : ∀ sides ∈ code, Legible sides) :
    decode (render code) = some code := by
  rw [decode, lines_render legible]
  exact mapM_cutAt legible

end Lines

section Destinations

theorem Destination.name_injective : Function.Injective Destination.name := by
  have apart (index : Nat) : Term.temporaryName index ≠ "result" := by
    intro same
    have heads : some 't' = some 'r' := congrArg List.head? same
    exact absurd heads (by decide)
  intro first second same
  cases first with
  | temporary index =>
    cases second with
    | temporary other => rw [Integer.naturalText_injective (List.cons.inj same).2]
    | result => exact absurd same (apart index)
  | result =>
    cases second with
    | temporary other => exact absurd same.symm (apart other)
    | result => rfl

theorem Destination.space_not_mem_name (destination : Destination) : ' ' ∉ destination.name := by
  cases destination with
  | temporary index =>
    show ' ' ∉ 't' :: Integer.naturalText index
    unfold Integer.naturalText
    split <;> simp
  | result => exact Text.not_mem_toList (by decide)

theorem Destination.lineFeed_not_mem_name (destination : Destination) :
    '\n' ∉ destination.name := by
  cases destination with
  | temporary index => exact fun member => absurd (plain_temporaryName index _ member) (by decide)
  | result => exact Text.not_mem_toList (by decide)

def destinations (count : Nat) : List Destination :=
  (List.range count).map (fun place => .temporary (place + 1)) ++ [.result]

theorem map_destination_instructions (terms : List (Term Text)) :
    (instructions terms).map Instruction.destination = destinations terms.length := by
  rw [instructions, destinations, List.map_append]
  congr 1
  exact List.ext_getElem (by simp) (by simp)

theorem nodup_destinations (count : Nat) : (destinations count).Nodup := by
  have temporaries :
      ((List.range count).map fun place => Destination.temporary (place + 1)).Nodup :=
    List.nodup_range.map fun first second same => by simpa using same
  refine List.nodup_append.2 ⟨temporaries, List.nodup_singleton _, ?_⟩
  simp

theorem nodup_names (terms : List (Term Text)) :
    ((instructions terms).map fun instruction => instruction.destination.name).Nodup := by
  have names := (nodup_destinations terms.length).map Destination.name_injective
  rwa [← map_destination_instructions, List.map_map] at names

end Destinations

section Listings

variable {builtin : Builtin} {name : Text} {arguments : List Text}

theorem term_of_mem_instructions {terms : List (Term Text)} {instruction : Instruction}
    (member : instruction ∈ instructions terms) :
    instruction.term ∈ terms ∨ instruction.term = .temporary terms.length := by
  rcases List.mem_append.1 member with member | member
  · obtain ⟨place, within, rfl⟩ := List.mem_mapIdx.1 member
    exact .inl (List.getElem_mem within)
  · rw [List.mem_singleton.1 member]
    exact .inr rfl

theorem lineFeed_not_mem_valueAt (whole : ∀ argument ∈ arguments, '\n' ∉ argument) (index : Nat) :
    '\n' ∉ valueAt arguments index := by
  rw [valueAt]
  cases found : arguments[index]? with
  | none => exact List.not_mem_nil
  | some argument => exact whole argument (List.mem_of_getElem? found)

theorem legible_instructions (whole : ∀ argument ∈ arguments, '\n' ∉ argument)
    (terms : List (Term Nat)) :
    ∀ sides ∈ (instructions (terms.map (Term.map (valueAt arguments)))).map Instruction.sides,
      Legible sides := by
  intro sides member
  obtain ⟨instruction, inside, rfl⟩ := List.mem_map.1 member
  have right : '\n' ∉ instruction.term.text := by
    rcases term_of_mem_instructions inside with computed | last
    · obtain ⟨term, -, same⟩ := List.mem_map.1 computed
      rw [← same]
      exact not_mem_text (by decide) fun index _ => lineFeed_not_mem_valueAt whole index
    · rw [last]
      exact (Destination.temporary _).lineFeed_not_mem_name
  exact ⟨instruction.destination.space_not_mem_name, instruction.destination.lineFeed_not_mem_name,
    right⟩

/-- The listing of a known function is read back as its instructions, each temporary in its turn and
the last one for the result, whatever the arguments hold on their one line. -/
theorem decode_generate (known : Builtin.named? (resolve name) = some builtin)
    (enough : ∀ index ∈ placeholders builtin, index < arguments.length)
    (whole : ∀ argument ∈ arguments, '\n' ∉ argument.trim) :
    ∃ code, emit (some name) (arguments.map some) = .ok code ∧
      decode (generate (some name) (arguments.map some)) = some (code.map Instruction.sides) ∧
      code.map Instruction.destination = destinations (template builtin).length ∧
      (code.map fun instruction => instruction.destination.name).Nodup ∧
      code.getLast? = some ⟨.result, .temporary (template builtin).length⟩ := by
  have emitted := emit_eq_instructions known fun index member => valueAt_eq (enough index member)
  have trimmed : ∀ argument ∈ arguments.map Text.trim, '\n' ∉ argument :=
    List.forall_mem_map.2 whole
  refine ⟨_, emitted, ?_, ?_, ?_, ?_⟩
  · rw [generate, emitted]
    exact decode_render (legible_instructions trimmed _)
  · rw [map_destination_instructions, List.length_map]
  · exact nodup_names _
  · rw [instructions, List.getLast?_concat, List.length_map]

-- The first argument is empty; the second one looks like the last line, and is trimmed.
theorem decode_generate_lines :
    let arguments : List Text := ["", "result = t9\n"]
    let listing : Text := "t1 = \nt2 = result = t9\nt3 = (t1 > t2) ? t1 : t2\nresult = t3\n"
    (Builtin.named? (resolve "Max") = some .findMax ∧
        (∀ index ∈ placeholders .findMax, index < arguments.length) ∧
        (∀ argument ∈ arguments, '\n' ∉ argument.trim) ∧
        generate (some "Max") (arguments.map some) = listing) ∧
      ∃ code, emit (some "Max") (arguments.map some) = .ok code ∧
        decode (generate (some "Max") (arguments.map some)) = some (code.map Instruction.sides) ∧
        code.map Instruction.destination = destinations (template .findMax).length ∧
        (code.map fun instruction => instruction.destination.name).Nodup ∧
        code.getLast? = some ⟨.result, .temporary (template .findMax).length⟩ := by
  intro arguments listing
  have known : Builtin.named? (resolve "Max") = some .findMax := by decide +kernel
  have enough : ∀ index ∈ placeholders .findMax, index < arguments.length := by decide
  have whole : ∀ argument ∈ arguments, '\n' ∉ argument.trim := by decide
  exact ⟨⟨known, enough, whole, by decide +kernel⟩, decode_generate known enough whole⟩

end Listings

end Code
end FunctionCalculator
