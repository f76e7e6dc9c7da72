import FunctionCalculator.Proofs.Code.Listing
/-!
The names that are recognised. Looking a name up lowers all of its letters, those outside ASCII as
well; still only ASCII spellings are recognised, for a full name and for the short ones of listings.
-/

set_option autoImplicit false

namespace FunctionCalculator

theorem Text.ascii_of_map_toLower {text : Text}
    (ascii : ∀ c ∈ text.map Char.toLower, c.toNat < 128) :
    ∀ c ∈ text, c.toNat < 128 :=
  fun _ member => ascii_of_toLower (ascii _ (List.mem_map_of_mem member))

theorem Text.mem_of_plain {names : List Text} (plain : ∀ name ∈ names, ∀ c ∈ name, IsPlain c)
    {text : Text} : text.lower ∈ names ↔
      (∀ c ∈ text, c.toNat < 128) ∧ text.map Char.toLower ∈ names := by
  constructor
  · intro member
    have same := (lower_eq_plain_iff (plain _ member)).1 rfl
    rw [← same] at member
    exact ⟨ascii_of_map_toLower fun c inside => (plain _ member c inside).2.1, member⟩
  · rintro ⟨-, member⟩
    rwa [lower_of_map_toLower rfl fun c inside => (plain _ member c inside).2.1]

theorem Registry.lookup_isSome_iff {registry : Registry}
    (plain : ∀ entry ∈ registry.entries, ∀ c ∈ entry.name, Text.IsPlain c) (name : Text) :
    (registry.lookup name).isSome = true ↔ (∀ c ∈ name, c.toNat < 128) ∧
      name.map Char.toLower ∈ registry.entries.map Signature.name := by
  rw [← Text.mem_of_plain (by simpa using plain), List.mem_map, lookup, List.find?_isSome]
  simp

theorem Builtin.named_isSome_iff {name : Text} :
    (named? name).isSome = true ↔ name ∈ all.map Builtin.name := by
  simp [named?, List.find?_isSome]

namespace Code

theorem lookup_name (builtin : Builtin) : aliases.lookup builtin.name = none := by
  have each : ∀ builtin ∈ Builtin.all, aliases.lookup builtin.name = none := by decide +kernel
  exact each builtin builtin.mem_all

theorem named_resolve {builtin : Builtin} {name : Text}
    (cased : name.map Char.toLower = builtin.name) :
    Builtin.named? (resolve name) = some builtin := by
  rw [resolve, Builtin.lower_of_cased cased, lookup_name]
  exact builtin.named_name

theorem lookup_isSome_iff {key : Text} :
    (aliases.lookup key).isSome = true ↔ key ∈ aliases.map Prod.fst := by
  simp [List.lookup_isSome_iff]

theorem named_resolve_isSome_iff (name : Text) :
    (Builtin.named? (resolve name)).isSome = true ↔
      name.lower ∈ Builtin.all.map Builtin.name ∨ name.lower ∈ aliases.map Prod.fst := by
  rw [resolve, ← lookup_isSome_iff]
  cases found : aliases.lookup name.lower with
  | some builtin => simp [builtin.named_name]
  | none => simp [Builtin.named_isSome_iff]

theorem alias_plain : ∀ name ∈ aliases.map Prod.fst, ∀ c ∈ name, Text.IsPlain c := by
  have each : (aliases.map Prod.fst).all (·.all (decide <| Text.IsPlain ·)) = true := by
    decide +kernel
  simpa using each

theorem standard_names :
    Registry.standard.entries.map Signature.name = Builtin.all.map Builtin.name :=
  List.map_map

theorem mem_standard_names {name : Text} (member : name ∈ Builtin.all.map Builtin.name) :
    ∀ c ∈ name, Text.IsPlain c := by
  obtain ⟨builtin, -, rfl⟩ := List.mem_map.1 member
  exact builtin.name_plain

/-- A name is recognised just when it is an ASCII spelling of a full name or, for a listing, of a
full or a short one. A listing is refused as unsupported just when its name is not recognised. -/
theorem recognised_ascii (name : Text) :
    ((Registry.standard.lookup name).isSome = true ↔
        (∀ c ∈ name, c.toNat < 128) ∧
          name.map Char.toLower ∈ Registry.standard.entries.map Signature.name) ∧
      ((Builtin.named? (resolve name)).isSome = true ↔
        (∀ c ∈ name, c.toNat < 128) ∧
          (name.map Char.toLower ∈ Registry.standard.entries.map Signature.name ∨
            name.map Char.toLower ∈ aliases.map Prod.fst)) ∧
      ∀ arguments, (∃ lowered, emit (some name) arguments = .error (.unsupported lowered)) ↔
        (Builtin.named? (resolve name)).isSome = false := by
  refine ⟨?_, ?_, fun arguments => ?_⟩
  · refine Registry.lookup_isSome_iff (fun entry member => ?_) name
    exact mem_standard_names (standard_names ▸ List.mem_map_of_mem member)
  · rw [named_resolve_isSome_iff, Text.mem_of_plain fun _ => mem_standard_names,
      Text.mem_of_plain alias_plain, standard_names, and_or_left]
  · cases known : Builtin.named? (resolve name) with
    | none => simp [emit_of_unsupported known]
    | some builtin =>
      refine iff_of_false ?_ (by simp)
      rintro ⟨lowered, failed⟩
      exact emit_error_of_supported known failed lowered rfl

-- The dotted capital I is lowered to an i and a dot above.
example : (Registry.standard.lookup "S\u0130N").isSome = false := by decide +kernel

end Code
end FunctionCalculator
