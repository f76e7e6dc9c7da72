import FunctionCalculator.Proofs.Code.Missing
import FunctionCalculator.Proofs.Code.Pattern
/-!
What is generated for a name and arguments, any of which may be absent. It is a complete listing or
the one line of an error; which of the two, and which error, is settled before anything is written.
-/

set_option autoImplicit false

namespace FunctionCalculator.Code

def listing (sides : List Text) : Text :=
  (sides.mapIdx fun place side =>
    Term.temporaryName (place + 1) ++ " = " ++ side ++ "\n").flatten ++
    ("result = " ++ Term.temporaryName sides.length ++ "\n")

inductive Generated : Option Text → List (Option Text) → Text → Prop
  | nameless (arguments : List (Option Text)) :
    Generated none arguments "Error: Invalid parameters.\n"
  | unsupported {name : Text} (unknown : Builtin.named? (resolve name) = none)
    (arguments : List (Option Text)) :
    Generated (some name) arguments ("Error: Unsupported function '" ++ name.lower ++ "'\n")
  | absent {name : Text} {builtin : Builtin} {arguments : List (Option Text)}
    (known : Builtin.named? (resolve name) = some builtin) (absent : none ∈ arguments) :
    Generated (some name) arguments "Error: Invalid parameters.\n"
  | few {name : Text} {builtin : Builtin} {arguments : List (Option Text)} {highest : Nat}
    (known : Builtin.named? (resolve name) = some builtin)
    (last : (placeholders builtin).max? = some highest) (few : arguments.length ≤ highest) :
    Generated (some name) arguments "Error: Invalid parameters.\n"
  | complete {name : Text} {builtin : Builtin} {arguments : List Text} {highest : Nat}
    {sides : List Text} (known : Builtin.named? (resolve name) = some builtin)
    (last : (placeholders builtin).max? = some highest) (enough : highest < arguments.length)
    (filled : (template builtin).map (fun term => fill (arguments.map Text.trim) term.pattern) =
      sides.map some) :
    Generated (some name) (arguments.map some) (listing sides)

section Refused

variable {name : Text} {builtin : Builtin} {arguments : List (Option Text)}

theorem generate_of_refusal {name : Option Text} {refusal : Refusal}
    (refused : emit name arguments = .error refusal)
    (supported : ∀ lowered, refusal ≠ .unsupported lowered) :
    generate name arguments = "Error: Invalid parameters.\n" := by
  rw [generate, refused]
  exact Refusal.line_of_supported supported

theorem generate_of_unknown (unknown : Builtin.named? (resolve name) = none)
    (arguments : List (Option Text)) :
    generate (some name) arguments = "Error: Unsupported function '" ++ name.lower ++ "'\n" := by
  have front : Error.mark ++ "Unsupported function '" = "Error: Unsupported function '" := by
    decide +kernel
  have back : ("'" : Text) ++ ['\n'] = "'\n" := by decide +kernel
  rw [← front, ← back, generate, emit_of_unsupported unknown]
  show Error.mark ++ ("Unsupported function '" ++ name.lower ++ "'") ++ ['\n'] = _
  simp only [List.append_assoc]

theorem present_of_absent (absent : none ∈ arguments) : present? arguments = none := by
  induction arguments with
  | nil => cases absent
  | cons first rest ih =>
    cases first with
    | none => rfl
    | some text =>
      have later := ih (by simpa using absent)
      rw [present?] at later
      rw [present?, List.mapM_cons, later]
      rfl

theorem exists_texts (present : none ∉ arguments) :
    ∃ texts : List Text, arguments = texts.map some := by
  induction arguments with
  | nil => exact ⟨[], rfl⟩
  | cons first rest ih =>
    cases first with
    | none => exact absurd List.mem_cons_self present
    | some text =>
      obtain ⟨texts, rfl⟩ := ih (mt (List.mem_cons_of_mem _) present)
      exact ⟨text :: texts, rfl⟩

theorem generate_of_absent (known : Builtin.named? (resolve name) = some builtin)
    (absent : none ∈ arguments) :
    generate (some name) arguments = "Error: Invalid parameters.\n" := by
  have refused : emit (some name) arguments = .error .absentArgument := by
    simp only [emit, known, present_of_absent absent]
  refine generate_of_refusal refused fun lowered same => ?_
  cases same

theorem generate_of_few (known : Builtin.named? (resolve name) = some builtin) {highest : Nat}
    (last : (placeholders builtin).max? = some highest) (few : arguments.length ≤ highest) :
    generate (some name) arguments = "Error: Invalid parameters.\n" := by
  by_cases absent : none ∈ arguments
  · exact generate_of_absent known absent
  · obtain ⟨texts, rfl⟩ := exists_texts absent
    rw [List.length_map] at few
    have needed : highest ∈ loads builtin :=
      placeholders_eq_loads builtin ▸ (List.max?_eq_some_iff.1 last).1
    exact (generate_invalid_iff known texts).2 ⟨highest, needed, few⟩

end Refused

section Complete

variable {name : Text} {builtin : Builtin} {arguments : List Text} {highest : Nat}

theorem render_singleton (sides : Text × Text) :
    render [sides] = sides.1 ++ [' ', '=', ' '] ++ sides.2 ++ ['\n'] :=
  List.flatMap_singleton _ _

theorem render_instructions (terms : List (Term Text)) :
    render ((instructions terms).map Instruction.sides) = listing (terms.map Term.text) := by
  have lines : (terms.mapIdx fun place term =>
        (⟨.temporary (place + 1), term⟩ : Instruction)).map
          (fun instruction => render [instruction.sides]) =
      (terms.map Term.text).mapIdx fun place side =>
        Term.temporaryName (place + 1) ++ " = " ++ side ++ "\n" := by
    refine List.ext_getElem (by simp) fun place _ _ => ?_
    simp only [List.getElem_map, List.getElem_mapIdx]
    exact render_singleton _
  have result : ("result" : Text) ++ [' ', '=', ' '] = "result = " := by decide +kernel
  have last : render [Instruction.sides ⟨.result, .temporary terms.length⟩] =
      "result = " ++ Term.temporaryName terms.length ++ "\n" := by
    rw [← result]
    exact render_singleton _
  rw [instructions, listing, List.map_append, ← lines, List.length_map, ← last]
  simp [render, List.flatMap_def, Function.comp_def]

theorem within_of_highest (last : (placeholders builtin).max? = some highest)
    (enough : highest < arguments.length) :
    ∀ index ∈ placeholders builtin, index < arguments.length :=
  fun index member => Nat.lt_of_le_of_lt ((List.max?_eq_some_iff.1 last).2 index member) enough

theorem map_fill_pattern (enough : ∀ index ∈ placeholders builtin, index < arguments.length) :
    (template builtin).map (fun term => fill (arguments.map Text.trim) term.pattern) =
      ((template builtin).map fun term =>
        (term.map (valueAt (arguments.map Text.trim))).text).map some := by
  rw [List.map_map]
  refine List.map_congr_left fun term member => ?_
  refine fill_pattern term fun index inside => valueAt_eq (enough index ?_)
  exact List.mem_flatMap.2 ⟨term, member, inside⟩

theorem generate_of_enough (known : Builtin.named? (resolve name) = some builtin)
    (enough : ∀ index ∈ placeholders builtin, index < arguments.length) :
    generate (some name) (arguments.map some) =
      listing ((template builtin).map fun term =>
        (term.map (valueAt (arguments.map Text.trim))).text) := by
  have emitted := emit_eq_instructions known fun index member => valueAt_eq (enough index member)
  rw [generate, emitted]
  exact (render_instructions _).trans (congrArg listing List.map_map)

end Complete

theorem Generated.eq {name : Option Text} {arguments : List (Option Text)} {shown : Text}
    (generated : Generated name arguments shown) : generate name arguments = shown := by
  cases generated with
  | nameless => exact generate_of_refusal rfl nofun
  | unsupported unknown => exact generate_of_unknown unknown arguments
  | absent known absent => exact generate_of_absent known absent
  | few known last few => exact generate_of_few known last few
  | complete known last enough filled =>
    have within := within_of_highest last enough
    rw [generate_of_enough known within]
    exact congrArg listing (List.map_injective_iff.2 (Option.some_injective _)
      ((map_fill_pattern within).symm.trans filled))

theorem exists_highest (builtin : Builtin) :
    ∃ highest, (placeholders builtin).max? = some highest := by
  cases builtin <;> exact ⟨_, rfl⟩

theorem generated_generate (name : Option Text) (arguments : List (Option Text)) :
    Generated name arguments (generate name arguments) := by
  cases name with
  | none =>
    rw [(Generated.nameless arguments).eq]
    exact .nameless arguments
  | some name =>
    cases known : Builtin.named? (resolve name) with
    | none =>
      rw [generate_of_unknown known]
      exact .unsupported known arguments
    | some builtin =>
      obtain ⟨highest, last⟩ := exists_highest builtin
      by_cases absent : none ∈ arguments
      · rw [generate_of_absent known absent]
        exact .absent known absent
      · obtain ⟨texts, rfl⟩ := exists_texts absent
        by_cases enough : highest < texts.length
        · have within := within_of_highest last enough
          rw [generate_of_enough known within]
          exact .complete known last enough (map_fill_pattern within)
        · have few : (texts.map some).length ≤ highest := by simpa using enough
          rw [generate_of_few known last few]
          exact .few known last few

theorem generate_eq_iff (name : Option Text) (arguments : List (Option Text)) (shown : Text) :
    generate name arguments = shown ↔ Generated name arguments shown := by
  constructor
  · rintro rfl
    exact generated_generate name arguments
  · exact Generated.eq

-- An argument that looks like a placeholder is no placeholder.
example : generate (some "Add") [some " {1}", some "x"] =
    "t1 = {1}\nt2 = x\nt3 = t1 + t2\nresult = t3\n" := by
  decide +kernel

end FunctionCalculator.Code
