import FunctionCalculator.Proofs.Evaluation.Outcome
import FunctionCalculator.Proofs.Integer.Numeral
/-!
Palindromes as texts and as numbers. Comparing the characters of a text from both ends agrees with
reversing the number that the text is written for, as long as the number has no sign.
-/

set_option autoImplicit false

namespace FunctionCalculator

namespace Integer

theorem text_palindrome_iff {n : Int} (nonneg : 0 ≤ n) :
    text n = (text n).reverse ↔ reversed n = n := by
  obtain ⟨m, rfl⟩ := Int.eq_ofNat_of_zero_le nonneg
  have value : reversed m = m ↔ reversal m = m := signed_eq_iff
  rw [value, text_natCast, eq_comm, reverse_naturalText_iff]

-- The minus would have to stand after the digits as well.
theorem not_palindrome_of_neg {n : Int} (negative : n < 0) : text n ≠ (text n).reverse := by
  intro palindrome
  have leading : Leading (naturalText n.natAbs) := leading_naturalText (by omega)
  rw [text, if_pos negative, List.reverse_cons] at palindrome
  cases digits : (naturalText n.natAbs).reverse with
  | nil => exact leading.nonempty (List.reverse_eq_nil_iff.1 digits)
  | cons last rest =>
    rw [digits] at palindrome
    obtain rfl : '-' = last := (List.cons.inj palindrome).1
    have member : '-' ∈ naturalText n.natAbs := by
      rw [← List.mem_reverse, digits]
      exact List.mem_cons_self
    exact absurd (leading.ascii '-' member) (by decide)

end Integer

namespace Evaluation

theorem isPalindrome_iff (argument : Text) (answer : Bool) :
    evaluate "ispalindrome" [argument] = .ok (if answer then "true" else "false") ↔
      decide (argument = argument.reverse) = answer := by
  have computed : evaluate "ispalindrome" [argument] =
      shown (.ok (.bool (decide (argument = argument.reverse)))) :=
    evaluate_one .isPalindrome .text rfl rfl
  rw [computed]
  cases decide (argument = argument.reverse) <;> cases answer <;> decide

theorem isPalindrome_true_iff (argument : Text) :
    evaluate "ispalindrome" [argument] = .ok "true" ↔ argument = argument.reverse :=
  (isPalindrome_iff argument true).trans decide_eq_true_iff

theorem isPalindrome_false_iff (argument : Text) :
    evaluate "ispalindrome" [argument] = .ok "false" ↔ argument ≠ argument.reverse :=
  (isPalindrome_iff argument false).trans decide_eq_false_iff_not

theorem evaluate_reverseNumber {n : Int} (fits : Integer.size n ≤ Integer.maxDigits) :
    evaluate "reversenumber" [Integer.text n] = .ok (Integer.text (Integer.reversed n)) := by
  have read : Integer.read? (Integer.text n) = some n :=
    Integer.read_eq_some_iff.2 (Integer.literal_text fits)
  have computed : evaluate "reversenumber" [Integer.text n] =
      shown (Builtin.checked .int (Integer.reverse n)) :=
    evaluate_one .reverseNumber .integer rfl read
  rw [computed, Integer.reverse_eq fits, Builtin.checked, shown, Value.shown,
    Integer.written_of_size ((Integer.size_reversed_le n).trans fits)]
  rfl

/-- A number without a sign is shown as a palindrome just when reversing it shows the same text, and
a negative one never is. -/
theorem palindrome_agrees_with_reversal :
    (∀ n : Int, 0 ≤ n → Integer.size n ≤ 4300 →
      (evaluate "ispalindrome" [Integer.text n] = .ok "true" ↔
        evaluate "reversenumber" [Integer.text n] = .ok (Integer.text n)) ∧
      (evaluate "ispalindrome" [Integer.text n] = .ok "false" ↔
        evaluate "reversenumber" [Integer.text n] ≠ .ok (Integer.text n)) ∧
      ∃ m, evaluate "reversenumber" [Integer.text n] = .ok (Integer.text m)) ∧
    ∀ n : Int, n < 0 → evaluate "ispalindrome" [Integer.text n] = .ok "false" := by
  refine ⟨fun n nonneg fits => ?_, fun n negative => ?_⟩
  · have answers : evaluate "reversenumber" [Integer.text n] = .ok (Integer.text n) ↔
        Integer.text n = (Integer.text n).reverse := by
      rw [evaluate_reverseNumber fits, Except.ok.injEq, Integer.text_palindrome_iff nonneg]
      refine ⟨Integer.text_injective ((Integer.size_reversed_le n).trans fits) fits, ?_⟩
      exact congrArg Integer.text
    refine ⟨?_, ?_, _, evaluate_reverseNumber fits⟩
    · rw [isPalindrome_true_iff, answers]
    · rw [isPalindrome_false_iff, Ne, Ne, answers]
  · exact (isPalindrome_false_iff _).2 (Integer.not_palindrome_of_neg negative)

theorem palindrome_agrees_with_reversal_zeros :
    (0 ≤ (1210 : Int) ∧ Integer.size 1210 ≤ 4300 ∧
      evaluate "ispalindrome" [Integer.text 1210] = .ok "false" ∧
      evaluate "reversenumber" [Integer.text 1210] ≠ .ok (Integer.text 1210)) ∧
    (-121 < (0 : Int) ∧ evaluate "ispalindrome" [Integer.text (-121)] = .ok "false") := by
  have fits : Integer.size 1210 ≤ 4300 := by decide +kernel
  have other : evaluate "ispalindrome" [Integer.text 1210] = .ok "false" := by decide +kernel
  have agrees := palindrome_agrees_with_reversal.1 1210 (by decide) fits
  exact ⟨⟨by decide, fits, other, agrees.2.1.1 other⟩, by decide,
    palindrome_agrees_with_reversal.2 (-121) (by decide)⟩

end Evaluation
end FunctionCalculator
