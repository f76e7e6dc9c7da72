import FunctionCalculator.Builtin.Meaning
import FunctionCalculator.Proofs.Text.Case
import Mathlib.Data.List.Nodup
/-!
The builtins as the registry shows them: what a look-up finds, and how many arguments are read.
-/

set_option autoImplicit false

namespace FunctionCalculator

theorem Registry.lookup_standard (name : Text) :
    Registry.standard.lookup name = (Builtin.find? name).map Builtin.signature := by
  rw [Registry.lookup, Registry.standard, List.find?_map]
  rfl

namespace Builtin

theorem mem_all (builtin : Builtin) : builtin ∈ all := by
  cases builtin <;> decide

theorem names_nodup : (all.map name).Nodup := by
  decide +kernel

theorem named_eq_some {name : Text} {builtin : Builtin} (named : named? name = some builtin) :
    builtin.name = name := by
  simpa using List.find?_some named

theorem named_name (builtin : Builtin) : named? builtin.name = some builtin := by
  cases found : named? builtin.name with
  | none =>
    have missing := List.find?_eq_none.1 found builtin builtin.mem_all
    simp at missing
  | some other =>
    have same := List.inj_on_of_nodup_map names_nodup other.mem_all builtin.mem_all
      (named_eq_some found)
    rw [same]

theorem name_within (builtin : Builtin) :
    ∀ c ∈ builtin.name, '\n'.toNat < c.toNat ∧ c.toNat < 128 := by
  have each : ∀ builtin ∈ all,
      builtin.name.all (fun c => '\n'.toNat < c.toNat && c.toNat < 128) = true := by
    decide +kernel
  simpa using each builtin builtin.mem_all

theorem lineFeed_not_mem_name (builtin : Builtin) : '\n' ∉ builtin.name :=
  fun member => Nat.lt_irrefl _ (builtin.name_within '\n' member).1

theorem lower_of_cased {builtin : Builtin} {name : Text}
    (cased : name.map Char.toLower = builtin.name) : name.lower = builtin.name :=
  Text.lower_of_map_toLower cased fun c member => (builtin.name_within c member).2

theorem find_of_cased {builtin : Builtin} {name : Text}
    (cased : name.map Char.toLower = builtin.name) : find? name = some builtin := by
  rw [find?, lower_of_cased cased, named_name]

theorem map_toLower_name (builtin : Builtin) : builtin.name.map Char.toLower = builtin.name := by
  have each : ∀ builtin ∈ all, builtin.name.map Char.toLower = builtin.name := by decide +kernel
  exact each builtin builtin.mem_all

theorem find_name (builtin : Builtin) : find? builtin.name = some builtin :=
  find_of_cased builtin.map_toLower_name

theorem name_plain (builtin : Builtin) : ∀ c ∈ builtin.name, Text.IsPlain c := by
  have each : ∀ builtin ∈ all, 'k' ∉ builtin.name := by decide +kernel
  intro c member
  obtain ⟨above, ascii⟩ := builtin.name_within c member
  have other : c ≠ 'k' := by
    rintro rfl
    exact each builtin builtin.mem_all member
  exact ⟨Nat.zero_lt_of_lt above, ascii, other⟩

theorem find_eq_some_iff {name : Text} {builtin : Builtin} :
    find? name = some builtin ↔ name.map Char.toLower = builtin.name := by
  refine ⟨fun found => ?_, find_of_cased⟩
  exact (Text.lower_eq_plain_iff builtin.name_plain).1 (named_eq_some found).symm

theorem length_readings (builtin : Builtin) : builtin.readings.length = builtin.arity := by
  cases builtin <;> rfl

end Builtin
end FunctionCalculator
