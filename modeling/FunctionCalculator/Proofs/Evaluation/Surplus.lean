import FunctionCalculator.Proofs.Code.Naming
import FunctionCalculator.Proofs.Code.Pattern
import FunctionCalculator.Proofs.Evaluation.Outcome
/-!
Arguments beyond the parameters of a function. An evaluation reads one argument for each reading and
a listing loads those that its code names; both leave the others alone, whatever they hold.
-/

set_option autoImplicit false

namespace FunctionCalculator

theorem Meaning.onTexts_take (readings : List Reading) (function : Meaning readings)
    (arguments : List Text) :
    onTexts readings function (arguments.take readings.length) =
      onTexts readings function arguments := by
  induction readings generalizing arguments with
  | nil => rfl
  | cons reading readings ih =>
    cases arguments with
    | nil => rfl
    | cons argument arguments =>
      rw [List.length_cons, List.take_succ_cons, onTexts, onTexts]
      cases reading.read argument with
      | error => rfl
      | ok value => exact ih (function value) arguments

variable {builtin : Builtin} {name : Text} {arguments : List Text}

theorem Evaluation.evaluate_append (found : Builtin.find? name = some builtin)
    (enough : builtin.arity ≤ arguments.length) (extra : List Text) :
    evaluate name (arguments ++ extra) = evaluate name arguments := by
  have more : builtin.arity ≤ (arguments ++ extra).length := by
    rw [List.length_append]
    exact Nat.le_add_right_of_le enough
  have read : (arguments ++ extra).take builtin.readings.length =
      arguments.take builtin.readings.length :=
    List.take_append_of_le_length (builtin.length_readings.symm ▸ enough)
  rw [evaluate_of_found found enough, evaluate_of_found found more, ← Meaning.onTexts_take, read,
    Meaning.onTexts_take]

theorem Code.generate_append (known : Builtin.named? (resolve name) = some builtin)
    (enough : ∀ index ∈ placeholders builtin, index < arguments.length) (extra : List Text) :
    generate (some name) ((arguments ++ extra).map some) =
      generate (some name) (arguments.map some) := by
  have given : ∀ index ∈ placeholders builtin, (arguments.map Text.trim)[index]? =
      some (valueAt (arguments.map Text.trim) index) :=
    fun index member => valueAt_eq (enough index member)
  have kept : ∀ index ∈ placeholders builtin, ((arguments ++ extra).map Text.trim)[index]? =
      some (valueAt (arguments.map Text.trim) index) := by
    intro index member
    have within : index < (arguments.map Text.trim).length := by
      rw [List.length_map]
      exact enough index member
    rw [List.map_append, List.getElem?_append_left within, given index member]
  rw [generate, generate, emit_eq_instructions known given, emit_eq_instructions known kept]

theorem Code.placeholders_lt_arity (builtin : Builtin) :
    ∀ index ∈ placeholders builtin, index < builtin.arity := by
  intro index member
  obtain ⟨term, inside, found⟩ := List.mem_flatMap.1 member
  exact template_arguments builtin term inside index found

namespace Evaluation

open Code (generate)

theorem surplus_ignored (found : Builtin.find? name = some builtin)
    (enough : builtin.arity ≤ arguments.length) (extra : List Text) :
    evaluate name (arguments ++ extra) = evaluate name arguments ∧
      generate (some name) ((arguments ++ extra).map some) =
        generate (some name) (arguments.map some) := by
  have known := Code.named_resolve (Builtin.find_eq_some_iff.1 found)
  have within : ∀ index ∈ Code.placeholders builtin, index < arguments.length :=
    fun index member => Nat.lt_of_lt_of_le (Code.placeholders_lt_arity builtin index member) enough
  exact ⟨evaluate_append found enough extra, Code.generate_append known within extra⟩

theorem surplus_ignored_mean :
    let arguments : List Text := ["4", "7"]
    let extra : List Text := ["no number", "{2}"]
    (Builtin.find? "Mean" = some .mean ∧ Builtin.arity .mean ≤ arguments.length ∧
        evaluate "Mean" arguments = .ok "5.5") ∧
      evaluate "Mean" (arguments ++ extra) = evaluate "Mean" arguments ∧
      generate (some "Mean") ((arguments ++ extra).map some) =
        generate (some "Mean") (arguments.map some) := by
  intro arguments extra
  have found : Builtin.find? "Mean" = some .mean := by decide +kernel
  have enough : Builtin.arity .mean ≤ arguments.length := by decide
  exact ⟨⟨found, enough, by decide +kernel⟩, surplus_ignored found enough extra⟩

end Evaluation
end FunctionCalculator
