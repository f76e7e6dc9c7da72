import FunctionCalculator.Proofs.Integer.Digits
/-!
Reversing the decimal digits of an integer. The written text is reversed and read again, which is
the same as adding the digits up from the lowest one; zeros at the end are lost, and nothing else.
-/

set_option autoImplicit false

namespace FunctionCalculator

namespace Text

theorem digitValue_digitChar {d : Nat} (digit : d < 10) : digitValue? d.digitChar = some d := by
  have each : ∀ d < 10, digitValue? d.digitChar = some d := by decide +kernel
  exact each d digit

theorem digitValues_map_digitChar {values : List Nat} (digits : ∀ d ∈ values, d < 10) :
    digitValues (values.map Nat.digitChar) = values := by
  rw [digitValues, List.filterMap_map]
  calc
    values.filterMap (digitValue? ∘ Nat.digitChar) = values.filterMap some :=
      List.filterMap_congr fun d member => digitValue_digitChar (digits d member)
    _ = values := List.filterMap_some

end Text

namespace Integer

theorem lt_of_mem_digits {n d : Nat} (member : d ∈ digits n) : d < 10 :=
  Nat.digits_lt_base (by decide) (digits_eq n ▸ member)

theorem digits_ne_nil {n : Nat} (nonzero : n ≠ 0) : digits n ≠ [] := by
  rwa [digits_eq, Nat.digits_ne_nil_iff_ne_zero]

def reversal (n : Nat) : Nat := (digits n).foldl (fun sum digit => 10 * sum + digit) 0

theorem reversal_zero : reversal 0 = 0 := by
  simp [reversal, digits]

theorem reversal_eq (n : Nat) : reversal n = Nat.ofDigits 10 (digits n).reverse :=
  Text.ofDigitValues_eq (digits n)

theorem digitValues_reverse_naturalText (n : Nat) :
    Text.ofDigitValues (Text.digitValues (naturalText n).reverse) = reversal n := by
  unfold naturalText
  split
  · next zero =>
    subst zero
    rw [reversal_zero]
    decide
  · rw [List.map_reverse, List.reverse_reverse,
      Text.digitValues_map_digitChar fun d member => lt_of_mem_digits member]
    rfl

section Digits

theorem exists_zeros (values : List Nat) (small : ∀ d ∈ values, d < 10) :
    ∃ count, values = digits (Nat.ofDigits 10 values) ++ List.replicate count 0 := by
  induction values with
  | nil => exact ⟨0, by simp [digits]⟩
  | cons d values ih =>
    obtain ⟨count, above⟩ := ih fun d member => small d (List.mem_cons_of_mem _ member)
    rw [digits_eq] at above ⊢
    by_cases zero : d = 0 ∧ Nat.ofDigits 10 values = 0
    · refine ⟨count + 1, ?_⟩
      rw [zero.2] at above
      rw [Nat.ofDigits_cons, zero.1, zero.2]
      simpa [List.replicate_succ] using above
    · refine ⟨count, ?_⟩
      rw [Nat.ofDigits_cons, Nat.digits_add 10 (by decide) d _ (small d (by simp)) (by tauto),
        List.cons_append, ← above]

theorem exists_reverse_digits (n : Nat) :
    ∃ count, (digits n).reverse = digits (reversal n) ++ List.replicate count 0 := by
  rw [reversal_eq]
  exact exists_zeros _ fun d member => lt_of_mem_digits (List.mem_reverse.1 member)

theorem exists_digits_eq_append {n : Nat} (nonzero : n ≠ 0) :
    ∃ values d, digits n = values ++ [d] ∧ d ≠ 0 := by
  refine ⟨_, _, (List.dropLast_append_getLast (digits_ne_nil nonzero)).symm, ?_⟩
  simp only [digits_eq]
  exact Nat.getLast_digit_ne_zero 10 nonzero

theorem not_dvd_reversal {n : Nat} (nonzero : n ≠ 0) : ¬ 10 ∣ reversal n := by
  obtain ⟨values, d, split, top⟩ := exists_digits_eq_append nonzero
  have small : d < 10 := lt_of_mem_digits (n := n) (by simp [split])
  rw [reversal_eq, split, List.reverse_append, List.reverse_singleton, List.singleton_append,
    Nat.ofDigits_cons]
  omega

theorem reversal_eq_zero_iff {n : Nat} : reversal n = 0 ↔ n = 0 := by
  constructor
  · intro zero
    by_contra nonzero
    exact not_dvd_reversal nonzero (zero ▸ Nat.dvd_zero 10)
  · rintro rfl
    exact reversal_zero

theorem reversal_eq_self_iff {n : Nat} : reversal n = n ↔ (digits n).reverse = digits n := by
  constructor
  · intro same
    obtain ⟨count, reversed⟩ := exists_reverse_digits n
    rw [same] at reversed
    have length := congrArg List.length reversed
    have unpadded : count = 0 := by simpa using length
    rw [reversed, unpadded, List.replicate_zero, List.append_nil]
  · intro same
    rw [reversal_eq, same, digits_eq, Nat.ofDigits_digits]

theorem reverse_naturalText_iff {n : Nat} :
    (naturalText n).reverse = naturalText n ↔ reversal n = n := by
  by_cases zero : n = 0
  · subst zero
    exact iff_of_true rfl reversal_zero
  rw [reversal_eq_self_iff, naturalText, if_neg zero, ← List.map_reverse, List.reverse_reverse]
  constructor
  · intro same
    have small : ∀ d ∈ digits n, d < 10 := fun d member => lt_of_mem_digits member
    have values := congrArg Text.digitValues same
    rw [Text.digitValues_map_digitChar small, Text.digitValues_map_digitChar (by simpa using small)]
      at values
    exact values.symm
  · intro same
    rw [same]

theorem reversal_reversal {n : Nat} (whole : ¬ 10 ∣ n) : reversal (reversal n) = n := by
  have nonzero : n ≠ 0 := by
    rintro rfl
    exact whole (Nat.dvd_zero 10)
  have lowest : digits n = n % 10 :: digits (n / 10) := by rw [digits, if_neg nonzero]
  obtain ⟨count, reversed⟩ := exists_reverse_digits n
  cases count with
  | zero =>
    rw [List.replicate_zero, List.append_nil] at reversed
    rw [reversal_eq (reversal n), ← reversed, List.reverse_reverse, digits_eq, Nat.ofDigits_digits]
  | succ count =>
    rw [lowest, List.reverse_cons, List.replicate_succ', ← List.append_assoc] at reversed
    have last := List.append_inj_right' reversed rfl
    simp at last
    omega

theorem reversal_reversal_iff {n : Nat} : reversal (reversal n) = n ↔ n = 0 ∨ ¬ 10 ∣ n := by
  constructor
  · intro same
    by_cases nonzero : reversal n = 0
    · exact .inl (reversal_eq_zero_iff.1 nonzero)
    · exact .inr (same ▸ not_dvd_reversal nonzero)
  · rintro (rfl | whole)
    · rw [reversal_zero, reversal_zero]
    · exact reversal_reversal whole

theorem sum_reversal (weight : Nat → Nat) (zero : weight 0 = 0) (n : Nat) :
    ((digits (reversal n)).map weight).sum = ((digits n).map weight).sum := by
  obtain ⟨count, reversed⟩ := exists_reverse_digits n
  calc
    ((digits (reversal n)).map weight).sum
      = ((digits (reversal n) ++ List.replicate count 0).map weight).sum := by simp [zero]
    _ = ((digits n).map weight).sum := by rw [← reversed, List.map_reverse, List.sum_reverse]

theorem size_reversal_le (n : Nat) : size (reversal n) ≤ size n := by
  obtain ⟨count, reversed⟩ := exists_reverse_digits n
  have length := congrArg List.length reversed
  simp only [digits_eq, List.length_reverse, List.length_append] at length
  simp only [size, Int.natAbs_natCast]
  omega

end Digits

section Signs

variable {n : Int}

def reversed (n : Int) : Int := signed (n < 0) (reversal n.natAbs)

theorem natAbs_reversed (n : Int) : (reversed n).natAbs = reversal n.natAbs := natAbs_signed _ _

theorem reversed_neg_iff : reversed n < 0 ↔ n < 0 := by
  by_cases negative : n < 0
  · have nonzero : reversal n.natAbs ≠ 0 := mt reversal_eq_zero_iff.1 (by omega)
    simp only [reversed, signed, negative, decide_true, if_true, iff_true]
    omega
  · simp only [reversed, signed, negative, decide_false, Bool.false_eq_true, if_false, iff_false]
    omega

theorem sign_reversed (nonzero : reversed n ≠ 0) : (reversed n).sign = n.sign := by
  have above : n ≠ 0 := by
    rintro rfl
    exact nonzero (by simp [reversed, signed, reversal_zero])
  by_cases negative : n < 0
  · rw [Int.sign_eq_neg_one_of_neg negative,
      Int.sign_eq_neg_one_of_neg (reversed_neg_iff.2 negative)]
  · have positive : ¬ reversed n < 0 := mt reversed_neg_iff.1 negative
    rw [Int.sign_eq_one_of_pos (by omega), Int.sign_eq_one_of_pos (by omega)]

theorem reversed_reversed (n : Int) :
    reversed (reversed n) = signed (n < 0) (reversal (reversal n.natAbs)) := by
  rw [reversed, natAbs_reversed]
  simp only [reversed_neg_iff]

theorem signed_eq_iff {magnitude : Nat} : signed (n < 0) magnitude = n ↔ magnitude = n.natAbs := by
  constructor
  · intro same
    rw [← same, natAbs_signed]
  · rintro rfl
    by_cases negative : n < 0
    · simp only [signed, negative, decide_true, if_true]
      omega
    · simp only [signed, negative, decide_false, Bool.false_eq_true, if_false]
      omega

theorem reversed_reversed_iff : reversed (reversed n) = n ↔ n = 0 ∨ ¬ 10 ∣ n := by
  rw [reversed_reversed, signed_eq_iff, reversal_reversal_iff, Int.natAbs_eq_zero]
  refine or_congr_right (not_congr ?_)
  omega

theorem size_reversed_le (n : Int) : size (reversed n) ≤ size n := by
  have bound := size_reversal_le n.natAbs
  rwa [size, size, Int.natAbs_natCast, Int.natAbs_natCast, ← natAbs_reversed] at bound

theorem digitSum_eq (n : Int) : digitSum n = signed (n < 0) ((digits n.natAbs).map id).sum := by
  rw [digitSum, List.map_id, List.sum_eq_foldl]

theorem digitSquareSum_eq (n : Int) :
    digitSquareSum n = (((digits n.natAbs).map fun digit => digit * digit).sum : Nat) := by
  rw [digitSquareSum, List.sum_eq_foldl, List.foldl_map]

theorem digitSum_reversed (n : Int) : digitSum (reversed n) = digitSum n := by
  rw [digitSum_eq, digitSum_eq, natAbs_reversed, sum_reversal id rfl]
  simp only [reversed_neg_iff]

theorem digitSquareSum_reversed (n : Int) : digitSquareSum (reversed n) = digitSquareSum n := by
  rw [digitSquareSum_eq, digitSquareSum_eq, natAbs_reversed,
    sum_reversal (fun digit => digit * digit) rfl]

theorem reverse_eq {n : Int} (fits : size n ≤ maxDigits) : reverse n = .ok (reversed n) := by
  have same : size n.natAbs = size n := by rw [size, Int.natAbs_natCast, size]
  rw [reverse, written_of_size (by rwa [same]), text_natCast]
  show Except.ok (signed _ (Text.ofDigitValues (Text.digitValues (naturalText _).reverse))) = _
  rw [digitValues_reverse_naturalText, reversed]

/-- Reversing the text of an integer adds its digits up from the lowest one. It keeps the sign and
the sums over the digits, and only zeros at the end keep it from being undone by itself. -/
theorem reverse_agrees_with_digits {n : Int} (fits : size n ≤ maxDigits) :
    ∃ m, reverse n = .ok m ∧
      m.natAbs = (digits n.natAbs).foldl (fun sum digit => 10 * sum + digit) 0 ∧
      (m ≠ 0 → m.sign = n.sign) ∧
      (reverse m = .ok n ↔ n = 0 ∨ ¬ 10 ∣ n) ∧
      digitSum m = digitSum n ∧ digitSquareSum m = digitSquareSum n := by
  have again : reverse (reversed n) = .ok (reversed (reversed n)) :=
    reverse_eq ((size_reversed_le n).trans fits)
  refine ⟨reversed n, reverse_eq fits, natAbs_reversed n, sign_reversed, ?_, digitSum_reversed n,
    digitSquareSum_reversed n⟩
  rw [again, Except.ok.injEq]
  exact reversed_reversed_iff

theorem reverse_agrees_of_zeros :
    size (-120) ≤ maxDigits ∧ ∃ m, reverse (-120) = .ok m ∧
      m.natAbs = (digits 120).foldl (fun sum digit => 10 * sum + digit) 0 ∧
      (m ≠ 0 → m.sign = -1) ∧
      (reverse m = .ok (-120) ↔ (-120 : Int) = 0 ∨ ¬ (10 : Int) ∣ -120) ∧
      digitSum m = digitSum (-120) ∧ digitSquareSum m = digitSquareSum (-120) :=
  have fits : size (-120) ≤ maxDigits := by decide +kernel
  ⟨fits, reverse_agrees_with_digits fits⟩

end Signs

end Integer
end FunctionCalculator
