import FunctionCalculator.Text.Case
/-!
Lower case keeps the line feeds of a text and adds none. On ASCII it is the lower case of each
character by itself, and only an ASCII text has a lower-case form of plain characters.
-/

set_option autoImplicit false

namespace FunctionCalculator.Text

theorem lowerRanges_above :
    ∀ range ∈ lowerRanges, 10 < range.first ∧ (10 : Int) < range.first + range.distance := by
  decide +kernel

theorem lower_above {range : LowerRange} (member : range ∈ lowerRanges) {code lowered : Nat}
    (inside : range.lower? code = some lowered) : 10 < code ∧ 10 < lowered := by
  have above := lowerRanges_above range member
  unfold LowerRange.lower? at inside
  split at inside
  · simp only [Option.some.injEq] at inside
    omega
  · simp at inside

-- A number that is no code point gives the character zero.
theorem toNat_ofNat_of_pos {code : Nat} (positive : 0 < (Char.ofNat code).toNat) :
    (Char.ofNat code).toNat = code := by
  by_cases valid : code.isValidChar
  · rw [Char.ofNat, dif_pos valid]
    rfl
  · rw [Char.ofNat, dif_neg valid] at positive
    exact absurd positive (by decide)

theorem ofNat_ne_lineFeed {code : Nat} (above : 10 < code) : Char.ofNat code ≠ '\n' := by
  intro same
  have whole : (Char.ofNat code).toNat = code := toNat_ofNat_of_pos (by rw [same]; decide)
  rw [same] at whole
  exact Nat.ne_of_lt above whole

theorem mem_lowerChar {c : Char} : '\n' ∈ lowerChar c ↔ c = '\n' := by
  unfold lowerChar
  split
  · next dotted =>
    subst dotted
    decide
  · split
    · next code found =>
      obtain ⟨range, member, inside⟩ := List.exists_of_findSome?_eq_some found
      obtain ⟨upper, lowered⟩ := lower_above member inside
      have self : c ≠ '\n' := by
        rintro rfl
        exact absurd upper (by decide)
      simp [self, (ofNat_ne_lineFeed lowered).symm]
    · simp [eq_comm]

theorem mem_lowerAfter (before text : Text) : '\n' ∈ lowerAfter before text ↔ '\n' ∈ text := by
  induction text generalizing before with
  | nil => simp [lowerAfter]
  | cons c rest ih =>
    rw [lowerAfter, List.mem_append, ih, List.mem_cons]
    by_cases sigma : c = '\u03a3'
    · subst sigma
      rw [if_pos rfl]
      split <;> simp
    · rw [if_neg sigma, mem_lowerChar, eq_comm]

theorem lineFeed_mem_lower {text : Text} : '\n' ∈ text.lower ↔ '\n' ∈ text := mem_lowerAfter [] text

section Ascii

theorem lowerChar_ofNat :
    ∀ code < 128, lowerChar (Char.ofNat code) = [(Char.ofNat code).toLower] := by
  decide +kernel

theorem lowerAfter_of_ascii (before : Text) {text : Text} (ascii : ∀ c ∈ text, c.toNat < 128) :
    lowerAfter before text = text.map Char.toLower := by
  induction text generalizing before with
  | nil => rfl
  | cons c rest ih =>
    obtain ⟨first, others⟩ := List.forall_mem_cons.1 ascii
    have sigma : c ≠ '\u03a3' := by
      rintro rfl
      exact absurd first (by decide)
    have alone : lowerChar c = [c.toLower] := by simpa using lowerChar_ofNat c.toNat first
    rw [lowerAfter, if_neg sigma, alone, ih (c :: before) others]
    rfl

theorem ascii_of_toLower {c : Char} (ascii : c.toLower.toNat < 128) : c.toNat < 128 := by
  unfold Char.toLower at ascii
  split at ascii
  · next upper =>
    have upTo := UInt32.le_iff_toNat_le.1 upper.2
    exact Nat.lt_of_le_of_lt upTo (by decide)
  · exact ascii

theorem lower_of_map_toLower {text lowered : Text} (same : text.map Char.toLower = lowered)
    (ascii : ∀ c ∈ lowered, c.toNat < 128) : text.lower = lowered := by
  subst same
  refine lowerAfter_of_ascii [] fun c member => ascii_of_toLower ?_
  exact ascii _ (List.mem_map_of_mem member)

end Ascii

section Plain

/-- The ASCII characters that no character outside ASCII is lowered to. The Kelvin sign is lowered
to a k, and the character zero stands for a code point that is none. -/
def IsPlain (c : Char) : Prop := 0 < c.toNat ∧ c.toNat < 128 ∧ c ≠ 'k'

instance : DecidablePred IsPlain := fun c =>
  inferInstanceAs (Decidable (0 < c.toNat ∧ c.toNat < 128 ∧ c ≠ 'k'))

theorem lowerRanges_ascii : ∀ range ∈ lowerRanges, range.last < 128 ∨
    (128 : Int) ≤ range.first + range.distance ∨
      range.first = range.last ∧ range.first + range.distance = ('k'.toNat : Int) := by
  decide +kernel

theorem ascii_of_lower? {range : LowerRange} (member : range ∈ lowerRanges) {code lowered : Nat}
    (inside : range.lower? code = some lowered) (ascii : lowered < 128)
    (other : lowered ≠ 'k'.toNat) : code < 128 := by
  have bounds := lowerRanges_ascii range member
  unfold LowerRange.lower? at inside
  split at inside
  · simp only [Option.some.injEq] at inside
    omega
  · cases inside

theorem ascii_of_lowerChar {c : Char} (plain : ∀ d ∈ lowerChar c, IsPlain d) : c.toNat < 128 := by
  unfold lowerChar at plain
  split at plain
  · exact absurd (plain '\u0307' (by simp)) (by decide)
  · split at plain
    · next code found =>
      obtain ⟨range, member, inside⟩ := List.exists_of_findSome?_eq_some found
      obtain ⟨positive, ascii, other⟩ := plain _ (List.mem_singleton_self _)
      rw [toNat_ofNat_of_pos positive] at ascii
      refine ascii_of_lower? member inside ascii fun same => other ?_
      rw [same, Char.ofNat_toNat]
    · exact (plain c (List.mem_singleton_self c)).2.1

theorem ascii_of_lowerAfter {before text : Text}
    (plain : ∀ d ∈ lowerAfter before text, IsPlain d) : ∀ c ∈ text, c.toNat < 128 := by
  induction text generalizing before with
  | nil => nofun
  | cons c rest ih =>
    obtain ⟨first, others⟩ := List.forall_mem_append.1 plain
    refine List.forall_mem_cons.2 ⟨?_, ih others⟩
    by_cases sigma : c = '\u03a3'
    · rw [if_pos sigma] at first
      refine absurd (first _ (List.mem_singleton_self _)) ?_
      split <;> decide
    · rw [if_neg sigma] at first
      exact ascii_of_lowerChar first

theorem lower_eq_plain_iff {text lowered : Text} (plain : ∀ c ∈ lowered, IsPlain c) :
    text.lower = lowered ↔ text.map Char.toLower = lowered := by
  refine ⟨fun same => ?_, fun same =>
    lower_of_map_toLower same fun c member => (plain c member).2.1⟩
  rw [← same] at plain ⊢
  exact (lowerAfter_of_ascii [] (ascii_of_lowerAfter plain)).symm

end Plain

end FunctionCalculator.Text
