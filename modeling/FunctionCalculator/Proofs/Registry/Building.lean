import FunctionCalculator.Proofs.Builtin.Lookup
import Mathlib.Data.List.Induction
/-!
Building a registry from rows. The rows are added one after the other, and the first one whose name
is not in lower case or was used before stops the whole. Otherwise every row is found under its own
name, in any case of letters.
-/

set_option autoImplicit false

namespace FunctionCalculator.Registry

def Refused (earlier : List Row) (row : Row) : Prop :=
  row.name ≠ row.name.lower ∨ row.name ∈ earlier.map Row.name

def Sound (rows : List Row) : Prop :=
  ∀ earlier row later, rows = earlier ++ row :: later → ¬ Refused earlier row

structure Stores (row : Row) (signature : Signature) : Prop where
  name : signature.name = row.name
  arity : signature.arity = row.kinds.length
  kinds : signature.kinds = row.kinds
  result : signature.result = row.result
  title : signature.title = row.title
  parameters : signature.parameters = row.parameters

/-- One signature for each row, in the order of the rows, and found under the name of that row
alone. -/
structure Lists (registry : Registry) (rows : List Row) : Prop where
  entries : List.Forall₂ Stores rows registry.entries
  distinct : (registry.entries.map Signature.name).Nodup
  own : ∀ row ∈ rows, ∃ signature, registry.lookup row.name = some signature ∧ Stores row signature
  found : ∀ name signature, registry.lookup name = some signature ↔
    ∃ row ∈ rows, row.name = name.lower ∧ Stores row signature
  absent : ∀ name, registry.lookup name = none ↔ ∀ row ∈ rows, row.name ≠ name.lower

def ofRows (rows : List Row) : Registry := ⟨rows.map Row.signature⟩

variable {rows earlier : List Row} {row : Row} {signature : Signature} {registry : Registry}

section Signatures

theorem stores_signature (row : Row) : Stores row row.signature :=
  ⟨rfl, rfl, rfl, rfl, rfl, rfl⟩

theorem stores_iff : Stores row signature ↔ row.signature = signature := by
  constructor
  · intro stores
    obtain ⟨name, arity, kinds, result, title, parameters⟩ := signature
    obtain ⟨rfl, rfl, rfl, rfl, rfl, rfl⟩ := stores
    rfl
  · rintro rfl
    exact stores_signature row

theorem entries_iff : List.Forall₂ Stores rows registry.entries ↔ registry = ofRows rows := by
  have same : Stores = fun row signature => row.signature = signature := by
    funext row signature
    exact propext stores_iff
  rw [same, ← List.forall₂_map_left_iff, List.forall₂_eq_eq_eq, ofRows]
  constructor
  · rintro entries
    rw [entries]
  · rintro rfl
    rfl

theorem ofRows_names (rows : List Row) :
    (ofRows rows).entries.map Signature.name = rows.map Row.name :=
  List.map_map

end Signatures

section Steps

theorem holds_ofRows_iff {name : Text} :
    (ofRows rows).holds name = true ↔ name ∈ rows.map Row.name := by
  rw [holds, List.any_eq_true, ← ofRows_names, List.mem_map]
  simp only [decide_eq_true_eq]

theorem insert_of_refused (refused : Refused rows row) :
    (ofRows rows).insert row = .error row.name :=
  if_pos (refused.symm.imp_left holds_ofRows_iff.2)

theorem insert_of_accepted (accepted : ¬ Refused rows row) :
    (ofRows rows).insert row = .ok (ofRows (rows ++ [row])) := by
  rw [insert, if_neg fun refused => accepted (refused.symm.imp_right holds_ofRows_iff.1),
    ofRows, ofRows, List.map_append]
  rfl

theorem build_concat (rows : List Row) (row : Row) :
    build (rows ++ [row]) = (build rows).bind (·.insert row) := by
  rw [build, List.foldlM_append, build]
  cases rows.foldlM insert empty with
  | error name => rfl
  | ok registry => exact bind_pure (registry.insert row)

theorem sound_concat : Sound (rows ++ [row]) ↔ Sound rows ∧ ¬ Refused rows row := by
  constructor
  · intro sound
    refine ⟨?_, sound rows row [] rfl⟩
    rintro earlier other later rfl
    exact sound earlier other (later ++ [row]) (by simp)
  · rintro ⟨front, last⟩ earlier other later whole
    obtain rfl | ⟨later, final, rfl⟩ := List.eq_nil_or_concat' later
    · obtain ⟨rfl, same⟩ := List.append_inj' whole rfl
      obtain rfl := List.singleton_inj.1 same
      exact last
    · rw [← List.cons_append, ← List.append_assoc] at whole
      exact front earlier other later (List.append_inj' whole rfl).1

end Steps

section Runs

theorem sound_iff :
    Sound rows ↔
      (∀ row ∈ rows, row.name = row.name.lower) ∧ (rows.map Row.name).Nodup := by
  induction rows using List.reverseRecOn with
  | nil => simp [Sound]
  | append_singleton rows row ih =>
    rw [sound_concat, ih, Refused, not_or, not_not, List.forall_mem_append, List.map_append,
      List.nodup_append_comm]
    simp only [List.map_cons, List.map_nil, List.singleton_append, List.nodup_cons,
      List.mem_singleton, forall_eq]
    tauto

theorem build_of_sound (sound : Sound rows) : build rows = .ok (ofRows rows) := by
  induction rows using List.reverseRecOn with
  | nil => rfl
  | append_singleton rows row ih =>
    obtain ⟨front, last⟩ := sound_concat.1 sound
    rw [build_concat, ih front]
    exact insert_of_accepted last

theorem build_of_refused (sound : Sound earlier) (refused : Refused earlier row)
    (later : List Row) : build (earlier ++ row :: later) = .error row.name := by
  rw [build, List.foldlM_append, ← build, build_of_sound sound]
  show ((ofRows earlier).insert row).bind _ = _
  rw [insert_of_refused refused]
  rfl

theorem sound_or_refused (rows : List Row) :
    Sound rows ∨ ∃ earlier row later, rows = earlier ++ row :: later ∧ Sound earlier ∧
      Refused earlier row := by
  induction rows using List.reverseRecOn with
  | nil => exact .inl (sound_iff.2 (by simp))
  | append_singleton rows row ih =>
    obtain sound | ⟨earlier, other, later, rfl, sound, refused⟩ := ih
    · by_cases refused : Refused rows row
      · exact .inr ⟨rows, row, [], rfl, sound, refused⟩
      · exact .inl (sound_concat.2 ⟨sound, refused⟩)
    · exact .inr ⟨earlier, other, later ++ [row], by simp, sound, refused⟩

end Runs

section Looking

theorem lookup_ofRows (rows : List Row) (name : Text) :
    (ofRows rows).lookup name =
      (rows.find? (·.name = name.lower)).map Row.signature :=
  List.find?_map ..

theorem lookup_eq_none_iff {name : Text} :
    (ofRows rows).lookup name = none ↔ ∀ row ∈ rows, row.name ≠ name.lower := by
  simp [lookup_ofRows]

-- The first row of a name is the only one.
theorem find_eq_some_iff (distinct : (rows.map Row.name).Nodup) {name : Text} :
    rows.find? (·.name = name) = some row ↔ row ∈ rows ∧ row.name = name := by
  constructor
  · intro found
    exact ⟨List.mem_of_find?_eq_some found, by simpa using List.find?_some found⟩
  · rintro ⟨member, named⟩
    cases found : rows.find? (·.name = name) with
    | none => exact absurd named (by simpa using List.find?_eq_none.1 found row member)
    | some other =>
      have also : other.name = name := by simpa using List.find?_some found
      rw [List.inj_on_of_nodup_map distinct (List.mem_of_find?_eq_some found) member
        (also.trans named.symm)]

theorem lookup_eq_some_iff (distinct : (rows.map Row.name).Nodup) {name : Text} :
    (ofRows rows).lookup name = some signature ↔
      ∃ row ∈ rows, row.name = name.lower ∧ Stores row signature := by
  simp only [lookup_ofRows, Option.map_eq_some_iff, find_eq_some_iff distinct, and_assoc,
    stores_iff]

theorem lists_of_sound (sound : Sound rows) : (ofRows rows).Lists rows := by
  obtain ⟨lower, distinct⟩ := sound_iff.1 sound
  have own : ∀ row ∈ rows, (ofRows rows).lookup row.name = some row.signature := by
    intro row member
    exact (lookup_eq_some_iff distinct).2 ⟨row, member, lower row member, stores_signature row⟩
  exact {
    entries := entries_iff.2 rfl
    distinct := (ofRows_names rows).symm ▸ distinct
    own := fun row member => ⟨_, own row member, stores_signature row⟩
    found := fun _ _ => lookup_eq_some_iff distinct
    absent := fun _ => lookup_eq_none_iff }

end Looking

section Outcome

theorem build_ok_iff :
    build rows = .ok registry ↔ Sound rows ∧ registry.Lists rows := by
  obtain sound | ⟨earlier, row, later, rfl, sound, refused⟩ := sound_or_refused rows
  · rw [build_of_sound sound]
    constructor
    · rintro ⟨⟩
      exact ⟨sound, lists_of_sound sound⟩
    · rintro ⟨-, lists⟩
      rw [entries_iff.1 lists.entries]
  · rw [build_of_refused sound refused]
    refine iff_of_false (fun same => by cases same) fun ⟨whole, _⟩ => ?_
    exact whole earlier row later rfl refused

theorem build_error_iff {name : Text} :
    build rows = .error name ↔
      ∃ earlier row later, rows = earlier ++ row :: later ∧ Sound earlier ∧ Refused earlier row ∧
        name = row.name := by
  constructor
  · intro failed
    obtain sound | ⟨earlier, row, later, rfl, sound, refused⟩ := sound_or_refused rows
    · cases (build_of_sound sound).symm.trans failed
    · have same := Except.error.inj ((build_of_refused sound refused later).symm.trans failed)
      exact ⟨earlier, row, later, rfl, sound, refused, same.symm⟩
  · rintro ⟨earlier, row, later, rfl, sound, refused, rfl⟩
    exact build_of_refused sound refused later

theorem raised_iff {message : Text} :
    (build rows).mapError refusal = .error message ↔
      ∃ name, build rows = .error name ∧ message = refusal name := by
  cases build rows <;> simp [Except.mapError, eq_comm]

/-- Building fails for the first row that is refused, which the message names, and otherwise gives a
registry of all the rows. -/
theorem build_outcome (rows : List Row) :
    ((∃ message, (build rows).mapError refusal = .error message) ↔
        ∃ earlier row later, rows = earlier ++ row :: later ∧ Refused earlier row) ∧
      (∀ message, (build rows).mapError refusal = .error message ↔
        ∃ earlier row later, rows = earlier ++ row :: later ∧ Sound earlier ∧ Refused earlier row ∧
          message = "bad registry entry '" ++ row.name ++ "'") ∧
      ∀ registry, build rows = .ok registry ↔ Sound rows ∧ registry.Lists rows := by
  have named (message : Text) : (build rows).mapError refusal = .error message ↔
      ∃ name, build rows = .error name ∧ message = refusal name := raised_iff
  simp only [build_error_iff] at named
  refine ⟨?_, fun message => ?_, fun registry => build_ok_iff⟩
  · constructor
    · rintro ⟨message, raised⟩
      obtain ⟨-, ⟨earlier, row, later, whole, -, refused, -⟩, -⟩ := (named message).1 raised
      exact ⟨earlier, row, later, whole, refused⟩
    · rintro ⟨earlier, row, later, rfl, refused⟩
      obtain sound | first := sound_or_refused (earlier ++ row :: later)
      · exact absurd refused (sound earlier row later rfl)
      · obtain ⟨front, other, rest, whole, sound, stops⟩ := first
        exact ⟨_, (named _).2 ⟨_, ⟨front, other, rest, whole, sound, stops, rfl⟩, rfl⟩⟩
  · rw [named]
    constructor
    · rintro ⟨-, ⟨earlier, row, later, whole, sound, refused, rfl⟩, told⟩
      exact ⟨earlier, row, later, whole, sound, refused, told⟩
    · rintro ⟨earlier, row, later, whole, sound, refused, told⟩
      exact ⟨_, ⟨earlier, row, later, whole, sound, refused, rfl⟩, told⟩

end Outcome

theorem standard_sound : Sound (Builtin.all.map Builtin.row) := by
  refine sound_iff.2 ⟨List.forall_mem_map.2 fun builtin _ => ?_, ?_⟩
  · exact (Builtin.lower_of_cased builtin.map_toLower_name).symm
  · rw [List.map_map]
    exact Builtin.names_nodup

theorem build_standard : build (Builtin.all.map Builtin.row) = .ok standard := by
  rw [build_of_sound standard_sound, ofRows, List.map_map]
  rfl

end FunctionCalculator.Registry
