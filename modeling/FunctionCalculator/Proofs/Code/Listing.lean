import FunctionCalculator.Code.Listing
import FunctionCalculator.Proofs.Builtin.Lookup
import FunctionCalculator.Proofs.Code.Term
import FunctionCalculator.Proofs.Message
import FunctionCalculator.Proofs.Text.Case
/-!
When there is a listing, how it begins, and the lines that stand in its place.
-/

set_option autoImplicit false

namespace FunctionCalculator.Code

theorem template_cons (builtin : Builtin) : ∃ term rest, template builtin = term :: rest := by
  cases builtin <;> exact ⟨_, _, rfl⟩

theorem assign_cons {arguments : List Text} {index : Nat} {term : Term Nat} {rest : List (Term Nat)}
    {code : List Instruction} (assigned : assign arguments index (term :: rest) = .ok code) :
    ∃ first others, code = ⟨.temporary index, first⟩ :: others := by
  obtain ⟨first, _, assigned⟩ := bind_ok assigned
  obtain ⟨others, _, assigned⟩ := bind_ok assigned
  exact ⟨first, others, (Except.ok.inj assigned).symm⟩

theorem emit_ok {name : Option Text} {arguments : List (Option Text)} {code : List Instruction}
    (emitted : emit name arguments = .ok code) :
    ∃ texts builtin, assign texts 1 (template builtin) = .ok code := by
  unfold emit at emitted
  split at emitted
  · cases emitted
  · split at emitted
    · cases emitted
    · next builtin _ =>
      split at emitted
      · cases emitted
      · exact ⟨_, builtin, emitted⟩

theorem emit_cons {name : Option Text} {arguments : List (Option Text)} {code : List Instruction}
    (emitted : emit name arguments = .ok code) :
    ∃ first others, code = ⟨.temporary 1, first⟩ :: others := by
  obtain ⟨texts, builtin, assigned⟩ := emit_ok emitted
  obtain ⟨term, rest, listed⟩ := template_cons builtin
  rw [listed] at assigned
  exact assign_cons assigned

theorem generate_opens {name : Option Text} {arguments : List (Option Text)}
    {code : List Instruction}
    (emitted : emit name arguments = .ok code) :
    Text.startsWith "t1 = " (generate name arguments) = true := by
  obtain ⟨first, others, rfl⟩ := emit_cons emitted
  rw [generate, emitted, Text.startsWith_iff]
  have number : (Destination.temporary 1).name = "t1" := by
    show Term.temporaryName 1 = "t1"
    simp [Term.temporaryName, Integer.naturalText, Integer.digits, Nat.digitChar]
  refine ⟨first.text ++ ['\n'] ++ render (others.map Instruction.sides), ?_⟩
  simp [render, Instruction.sides, number]

section Arguments

theorem template_arguments (builtin : Builtin) :
    ∀ term ∈ template builtin, ∀ index ∈ term.arguments, index < builtin.arity := by
  cases builtin <;> decide

theorem argument_eq_ok {arguments : List Text} {index : Nat} {text : Text} :
    argument arguments index = .ok text ↔ arguments[index]? = some text := by
  rw [argument]
  cases arguments[index]? <;> simp

theorem assign_ok {arguments : List Text} {terms : List (Term Nat)}
    (enough : ∀ term ∈ terms, ∀ index ∈ term.arguments, index < arguments.length) (index : Nat) :
    ∃ code, assign arguments index terms = .ok code := by
  induction terms generalizing index with
  | nil => exact ⟨_, rfl⟩
  | cons term rest ih =>
    obtain ⟨first, others⟩ := List.forall_mem_cons.1 enough
    have given : ∀ index ∈ term.arguments, ∃ text, argument arguments index = .ok text := by
      intro index member
      have within := first index member
      exact ⟨arguments[index], argument_eq_ok.2 (List.getElem?_eq_getElem within)⟩
    obtain ⟨replaced, done⟩ := term.replace_ok given
    obtain ⟨code, assigned⟩ := ih others (index + 1)
    exact ⟨⟨.temporary index, replaced⟩ :: code, by rw [assign, done, assigned]; rfl⟩

theorem present_map_some (arguments : List Text) :
    present? (arguments.map some) = some arguments := by
  induction arguments with
  | nil => rfl
  | cons first rest ih =>
    rw [present?] at ih
    rw [present?, List.map_cons, List.mapM_cons, ih]
    rfl

theorem emit_of_supported {name : Text} {builtin : Builtin}
    (known : Builtin.named? (resolve name) = some builtin) (arguments : List Text) :
    emit (some name) (arguments.map some) =
      assign (arguments.map Text.trim) 1 (template builtin) := by
  simp only [emit, known, present_map_some]

theorem generate_congr {arguments others : List Text}
    (same : arguments.map Text.trim = others.map Text.trim) (name : Option Text) :
    generate name (arguments.map some) = generate name (others.map some) := by
  simp only [generate, emit, present_map_some, same]

end Arguments

section Refusals

theorem refusal_marked (refusal : Refusal) : Text.startsWith Error.mark refusal.line = true := by
  cases refusal with
  | unsupported name =>
    rw [Refusal.line, Error.line, List.append_assoc]
    exact Text.startsWith_append Error.mark _
  | _ =>
    simp only [Refusal.line, List.append_assoc]
    exact Text.startsWith_append Error.mark _

theorem assign_error {arguments : List Text} {index : Nat} {terms : List (Term Nat)}
    {refusal : Refusal} (failed : assign arguments index terms = .error refusal) :
    ∃ missing, refusal = .missingArgument missing := by
  induction terms generalizing index with
  | nil => cases failed
  | cons term rest ih =>
    rcases bind_error failed with failed | ⟨_, _, failed⟩
    · refine term.replace_error (fun value _ absent => ?_) failed
      unfold argument at absent
      split at absent
      · cases absent
      · exact ⟨value, (Except.error.inj absent).symm⟩
    · exact ih (bind_pure_error failed)

theorem emit_of_unsupported {name : Text} (unknown : Builtin.named? (resolve name) = none)
    (arguments : List (Option Text)) :
    emit (some name) arguments = .error (.unsupported name.lower) := by
  simp [emit, unknown]

theorem emit_error_of_supported {name : Text} {builtin : Builtin}
    (known : Builtin.named? (resolve name) = some builtin) {arguments : List (Option Text)}
    {refusal : Refusal} (failed : emit (some name) arguments = .error refusal) (lowered : Text) :
    refusal ≠ .unsupported lowered := by
  simp only [emit, known] at failed
  split at failed
  · obtain rfl := Except.error.inj failed
    nofun
  · obtain ⟨missing, rfl⟩ := assign_error failed
    nofun

theorem lineFeed_not_mem_alias : ∀ entry ∈ aliases, '\n' ∉ entry.1 := by
  decide +kernel

theorem resolve_lineFeed {name : Text} (broken : '\n' ∈ name) :
    Builtin.named? (resolve name) = none := by
  have broken : '\n' ∈ name.lower := Text.lineFeed_mem_lower.2 broken
  have short : aliases.lookup name.lower = none := by
    refine List.lookup_eq_none_iff.2 fun entry member => ?_
    rw [bne_iff_ne]
    rintro same
    exact lineFeed_not_mem_alias entry member (same ▸ broken)
  rw [resolve, short]
  cases found : Builtin.named? name.lower with
  | none => rfl
  | some builtin =>
    have named := Builtin.named_eq_some found
    exact absurd (named ▸ broken) (builtin.lineFeed_not_mem_name)

theorem lineFeed_mem_refusal {name : Text} {arguments : List (Option Text)} {refusal : Refusal}
    (failed : emit (some name) arguments = .error refusal) :
    '\n' ∈ refusal.line.dropFinalLineFeed ↔ '\n' ∈ name := by
  cases known : Builtin.named? (resolve name) with
  | none =>
    obtain rfl := Except.error.inj ((emit_of_unsupported known arguments).symm.trans failed)
    rw [Refusal.line, Text.dropFinalLineFeed_append, Error.lineFeed_mem_line]
    exact Text.lineFeed_mem_lower
  | some builtin =>
    have whole : '\n' ∉ name := by
      intro broken
      simp [resolve_lineFeed broken] at known
    refine iff_of_false ?_ whole
    have other := emit_error_of_supported known failed
    cases refusal with
    | unsupported lowered => exact absurd rfl (other lowered)
    | _ =>
      simp only [Refusal.line, Text.dropFinalLineFeed_append, List.mem_append, not_or]
      exact ⟨Text.not_mem_toList (by decide), Text.not_mem_toList (by decide)⟩

end Refusals

end FunctionCalculator.Code
