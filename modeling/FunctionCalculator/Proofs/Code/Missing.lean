import FunctionCalculator.Proofs.Code.Hygiene
import FunctionCalculator.Proofs.Code.Naming
import FunctionCalculator.Proofs.Evaluation.Outcome
/-!
Calls with too few arguments. An evaluation counts them against the parameters of the function, a
listing only needs those that its code loads. The two differ for the mean of an array, whose code
takes the size from the array itself.
-/

set_option autoImplicit false

namespace FunctionCalculator.Code

open Evaluation (evaluate)

section Listings

variable {builtin : Builtin} {name : Text}

theorem assign_ok_iff (builtin : Builtin) (arguments : List Text) :
    (∃ code, assign arguments 1 (template builtin) = .ok code) ↔
      ∀ index ∈ loads builtin, index < arguments.length := by
  refine ⟨?_, fun enough => assign_ok (arguments_within enough) 1⟩
  rintro ⟨code, assigned⟩ index member
  obtain ⟨place, loaded⟩ := List.mem_iff_getElem?.1 member
  obtain ⟨term, given, single⟩ := exists_loading loaded
  obtain ⟨within, rfl⟩ := List.getElem?_eq_some_iff.1 given
  obtain ⟨news, replaced, -⟩ := assign_eq_mapIdx assigned
  obtain ⟨text, found, -⟩ :=
    reads_of_load given single (replaced.get within (replaced.length_eq ▸ within))
  exact (List.getElem?_eq_some_iff.1 found).1

theorem Refusal.line_of_supported {refusal : Refusal}
    (supported : ∀ lowered, refusal ≠ .unsupported lowered) :
    refusal.line = "Error: Invalid parameters.\n" := by
  have text : Refusal.noName.line = "Error: Invalid parameters.\n" := by decide +kernel
  cases refusal with
  | unsupported lowered => exact absurd rfl (supported lowered)
  | _ => exact text

theorem generate_invalid_iff (known : Builtin.named? (resolve name) = some builtin)
    (arguments : List Text) :
    generate (some name) (arguments.map some) = "Error: Invalid parameters.\n" ↔
      ∃ index ∈ loads builtin, arguments.length ≤ index := by
  have loaded := assign_ok_iff builtin (arguments.map Text.trim)
  rw [List.length_map, ← emit_of_supported known] at loaded
  cases emitted : emit (some name) (arguments.map some) with
  | ok code =>
    refine iff_of_false (fun same => ?_) ?_
    · have opens := Text.head_of_startsWith (c := 't') rfl (generate_opens emitted)
      rw [same] at opens
      exact absurd opens (by decide)
    · rintro ⟨index, member, few⟩
      exact Nat.not_lt.2 few (loaded.1 ⟨code, emitted⟩ index member)
  | error refusal =>
    refine iff_of_true ?_ ?_
    · rw [generate, emitted]
      exact Refusal.line_of_supported (emit_error_of_supported known emitted)
    · by_contra unmissed
      have enough : ∀ index ∈ loads builtin, index < arguments.length := by
        simpa using unmissed
      obtain ⟨code, assigned⟩ := loaded.2 enough
      cases emitted.symm.trans assigned

end Listings

theorem loads_of_ne_mean {builtin : Builtin} (other : builtin ≠ .mean) :
    loads builtin = List.range builtin.arity := by
  cases builtin with
  | mean => exact absurd rfl other
  | _ => rfl

theorem exists_unloaded_iff {builtin : Builtin} (other : builtin ≠ .mean) (count : Nat) :
    (∃ index ∈ loads builtin, count ≤ index) ↔ count < builtin.arity := by
  rw [loads_of_ne_mean other]
  constructor
  · rintro ⟨index, member, few⟩
    exact Nat.lt_of_le_of_lt few (List.mem_range.1 member)
  · intro few
    exact ⟨count, List.mem_range.2 few, Nat.le_refl count⟩

theorem exists_unloaded_mean (count : Nat) :
    (∃ index ∈ loads .mean, count ≤ index) ↔ count = 0 := by
  simp [loads]

/-- An evaluation misses a parameter just when the listing is refused for its parameters, save for
the mean of one argument: the evaluation then misses the size and the listing has all that it loads.
-/
theorem missing_agrees (builtin : Builtin) (arguments : List Text) :
    if builtin = .mean ∧ arguments.length = 1 then
      evaluate builtin.name arguments = .error .missingParameters ∧
        ∃ code, emit (some builtin.name) (arguments.map some) = .ok code
    else
      evaluate builtin.name arguments = .error .missingParameters ↔
        generate (some builtin.name) (arguments.map some) = "Error: Invalid parameters.\n" := by
  have known : Builtin.named? (resolve builtin.name) = some builtin :=
    named_resolve builtin.map_toLower_name
  have missing := Evaluation.evaluate_missing_iff builtin.find_name arguments
  have invalid := generate_invalid_iff known arguments
  split
  · next single =>
    obtain ⟨rfl, one⟩ := single
    refine ⟨missing.2 (by rw [one]; decide), ?_⟩
    rw [emit_of_supported known, assign_ok_iff, List.length_map, one]
    decide
  · next several =>
    rw [missing, invalid]
    by_cases mean : builtin = .mean
    · subst mean
      have other : arguments.length ≠ 1 := fun one => several ⟨rfl, one⟩
      rw [exists_unloaded_mean]
      show arguments.length < 2 ↔ _
      omega
    · exact (exists_unloaded_iff mean arguments.length).symm

theorem mean_of_one_argument :
    ¬ (evaluate "mean" ["4"] = .error .missingParameters ↔
      generate (some "mean") [some "4"] = "Error: Invalid parameters.\n") := by
  decide +kernel

end FunctionCalculator.Code
