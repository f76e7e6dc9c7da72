import FunctionCalculator.Integer.Decimal
import FunctionCalculator.Proofs.Text.Trim
import Mathlib.Data.Nat.Digits.Lemmas
/-!
The number of decimal digits of an integer, as it is written and as it is read. A text that is read
as an integer has no blank character.
-/

set_option autoImplicit false

namespace FunctionCalculator

namespace Text

theorem digitValue_lt {c : Char} {d : Nat} (digit : digitValue? c = some d) : d < 10 := by
  obtain ⟨first, _, inside⟩ := List.exists_of_findSome?_eq_some digit
  split at inside
  · simp only [Option.some.injEq] at inside
    omega
  · simp at inside

theorem not_blank_of_digit {c : Char} (digit : isDigit c = true) : isBlank c = false := by
  obtain ⟨d, found⟩ := Option.isSome_iff_exists.1 digit
  obtain ⟨first, member, inside⟩ := List.exists_of_findSome?_eq_some found
  have within : first ≤ c.toNat ∧ c.toNat ≤ first + 9 := by
    split at inside
    · assumption
    · cases inside
  refine not_blank_of_inRanges (zeroDigits.map fun first => (first, first + 9))
    (by decide +kernel) ?_
  exact List.any_eq_true.2 ⟨_, List.mem_map_of_mem member, by simpa using within⟩

theorem ofDigitValues_eq (values : List Nat) :
    ofDigitValues values = Nat.ofDigits 10 values.reverse := by
  rw [ofDigitValues, Nat.ofDigits_eq_foldr, List.foldr_reverse]
  simp [Nat.add_comm]

theorem ofDigitValues_lt (text : Text) :
    ofDigitValues (digitValues text) < 10 ^ text.length := by
  rw [ofDigitValues_eq]
  calc
    Nat.ofDigits 10 (digitValues text).reverse < 10 ^ (digitValues text).reverse.length := by
      refine Nat.ofDigits_lt_base_pow_length (by decide) fun d member => ?_
      obtain ⟨c, _, digit⟩ := List.mem_filterMap.1 (List.mem_reverse.1 member)
      exact digitValue_lt digit
    _ ≤ 10 ^ text.length := by
      refine Nat.pow_le_pow_right (by decide) ?_
      rw [List.length_reverse]
      exact List.length_filterMap_le ..

end Text

namespace Integer

theorem digits_eq (n : Nat) : digits n = Nat.digits 10 n := by
  fun_induction digits n with
  | case1 => simp
  | case2 n nonzero ih => rw [Nat.digits_def' (by decide) (Nat.pos_of_ne_zero nonzero), ih]

def size (n : Int) : Nat := (Nat.digits 10 n.natAbs).length

theorem natAbs_signed (negative : Bool) (magnitude : Nat) :
    (signed negative magnitude).natAbs = magnitude := by
  cases negative <;> simp [signed]

theorem text_natCast (m : Nat) : text m = naturalText m :=
  (if_neg (Int.not_lt.2 (Int.natCast_nonneg m))).trans (congrArg _ (Int.natAbs_natCast m))

theorem text_neg {m : Nat} (nonzero : m ≠ 0) : text (-m) = '-' :: naturalText m := by
  have negative : (-m : Int) < 0 := by omega
  rw [text, if_pos negative, Int.natAbs_neg, Int.natAbs_natCast]

theorem size_le_iff {n : Int} {k : Nat} : size n ≤ k ↔ n.natAbs < 10 ^ k :=
  Nat.digits_length_le_iff (by decide) _

theorem length_naturalText_le_iff {n : Int} :
    (naturalText n.natAbs).length ≤ maxDigits ↔ size n ≤ maxDigits := by
  unfold naturalText
  split
  · next zero =>
    have empty : size n = 0 := by rw [size, zero, Nat.digits_zero, List.length_nil]
    exact iff_of_true (by decide) (empty ▸ Nat.zero_le _)
  · rw [List.length_map, List.length_reverse, digits_eq, size]

theorem written_of_size {n : Int} (fits : size n ≤ maxDigits) : written n = .ok (text n) :=
  if_pos (length_naturalText_le_iff.2 fits)

theorem written_of_lt_size {n : Int} (long : maxDigits < size n) :
    written n = .error .tooManyDigits :=
  if_neg (mt length_naturalText_le_iff.1 (Nat.not_le.2 long))

theorem size_of_read {text : Text} {n : Int} (read : read? text = some n) : size n ≤ maxDigits := by
  unfold read? at read
  split at read
  next negative rest split =>
    split at read
    · next accepted =>
      obtain rfl := Option.some.inj read
      rw [size_le_iff, natAbs_signed]
      exact lt_of_lt_of_le (Text.ofDigitValues_lt rest)
        (Nat.pow_le_pow_right (by decide) accepted.2.2)
    · simp at read

theorem mem_splitSign {text : Text} {c : Char} (member : c ∈ text) :
    c = '+' ∨ c = '-' ∨ c ∈ (splitSign text).2 := by
  unfold splitSign
  split
  · exact (List.mem_cons.1 member).imp id .inr
  · exact .inr (List.mem_cons.1 member)
  · exact .inr (.inr member)

theorem trimmed_of_read {text : Text} {n : Int} (read : read? text = some n) : text.Trimmed := by
  have digits : ∀ c ∈ (splitSign text).2, Text.isDigit c = true := by
    unfold read? at read
    split at read
    next negative rest split =>
      split at read
      · next accepted => exact split ▸ List.all_eq_true.1 accepted.2.1
      · cases read
  refine Text.trimmed_of_not_blank fun c member => ?_
  obtain rfl | rfl | digit := mem_splitSign member
  · decide
  · decide
  · exact Text.not_blank_of_digit (digits c digit)

theorem reverse_of_size {n : Int} (fits : size n ≤ maxDigits) : ∃ m, reverse n = .ok m := by
  have same : size n.natAbs = size n := by rw [size, Int.natAbs_natCast, size]
  rw [reverse, written_of_size (by rwa [same])]
  exact ⟨_, rfl⟩

end Integer
end FunctionCalculator
