import FunctionCalculator.Proofs.Text.Lines
import FunctionCalculator.Proofs.Text.Trim
import FunctionCalculator.Text.Basic
import Mathlib.Data.List.Basic
/-!
Texts that end in at most one line feed. Only the last part of a text decides this, and for such a
text dropping all line feeds at the end is dropping one.
-/

set_option autoImplicit false

namespace FunctionCalculator.Text

def Unended (text : Text) : Prop := text.getLast?.any (· ≠ '\n') = true

instance (text : Text) : Decidable text.Unended := inferInstanceAs (Decidable (_ = true))

def EndsOnce (text : Text) : Prop := text.dropFinalLineFeed.Unended

section Unended

variable {text : Text}

theorem unended_toList {chars : List Char} (unended : Unended chars) :
    Unended (String.ofList chars).toList := by
  rwa [String.toList_ofList]

theorem unended_of_not_mem (nonempty : text ≠ []) (missing : '\n' ∉ text) : Unended text := by
  rw [Unended, List.getLast?_eq_some_getLast nonempty, Option.any_some, decide_eq_true_eq]
  exact ne_of_mem_of_not_mem (List.getLast_mem nonempty) missing

theorem Unended.ne_nil (unended : Unended text) : text ≠ [] := by
  rintro rfl
  cases unended

theorem Unended.append_left (unended : Unended text) (front : Text) : Unended (front ++ text) := by
  rwa [Unended, List.getLast?_append_of_ne_nil front unended.ne_nil]

theorem Unended.append_right (unended : Unended text) {back : Text} (missing : '\n' ∉ back) :
    Unended (text ++ back) := by
  by_cases nonempty : back = []
  · rwa [nonempty, List.append_nil]
  · exact (unended_of_not_mem nonempty missing).append_left text

-- The last character of a trimmed text is not blank, and a line feed is.
theorem Trimmed.unended (trimmed : Trimmed text) (nonempty : text ≠ []) : Unended text := by
  have last : text.trim.getLast? = ((trimLeft text).reverse.dropWhile isBlank).head? := by
    rw [trim, trimRight, List.getLast?_reverse]
  rw [trimmed, List.getLast?_eq_some_getLast nonempty] at last
  rw [Unended, List.getLast?_eq_some_getLast nonempty, Option.any_some, decide_eq_true_eq]
  intro lineFeed
  have visible := List.head?_dropWhile_not isBlank (trimLeft text).reverse
  rw [← last, lineFeed] at visible
  exact absurd visible (by decide)

end Unended

section EndsOnce

variable {text line : Text}

theorem Unended.dropFinalLineFeed (unended : Unended line) : line.dropFinalLineFeed = line := by
  rw [Text.dropFinalLineFeed, if_neg]
  intro lineFeed
  simp [Unended, lineFeed] at unended

theorem Unended.endsOnce (unended : Unended line) : EndsOnce line := by
  rwa [EndsOnce, unended.dropFinalLineFeed]

theorem Unended.endsOnce_append (unended : Unended line) : EndsOnce (line ++ ['\n']) := by
  rwa [EndsOnce, dropFinalLineFeed_append]

theorem eq_dropFinalLineFeed (text : Text) :
    text = text.dropFinalLineFeed ∨ text = text.dropFinalLineFeed ++ ['\n'] := by
  unfold dropFinalLineFeed
  split
  · next lineFeed => exact .inr (List.dropLast_append_getLast? '\n' lineFeed).symm
  · exact .inl rfl

theorem EndsOnce.append_left (once : EndsOnce text) (front : Text) : EndsOnce (front ++ text) := by
  rcases eq_dropFinalLineFeed text with whole | ended
  · rw [whole]
    exact (Unended.append_left once front).endsOnce
  · rw [ended, ← List.append_assoc]
    exact (Unended.append_left once front).endsOnce_append

theorem endsOnce_flatMap {α : Type} {items : List α} {shown : α → Text} (nonempty : items ≠ [])
    (each : ∀ item ∈ items, EndsOnce (shown item)) : EndsOnce (items.flatMap shown) := by
  rw [← List.dropLast_append_getLast nonempty, List.flatMap_append, List.flatMap_singleton]
  exact (each _ (List.getLast_mem nonempty)).append_left _

theorem Unended.dropFinalLineFeeds (unended : Unended line) : line.dropFinalLineFeeds = line := by
  rcases List.eq_nil_or_concat line with rfl | ⟨front, last, rfl⟩
  · rfl
  · have visible : last ≠ '\n' := by simpa [Unended] using unended
    simp [Text.dropFinalLineFeeds, visible]

theorem dropFinalLineFeeds_append (text : Text) :
    (text ++ ['\n']).dropFinalLineFeeds = text.dropFinalLineFeeds := by
  simp [dropFinalLineFeeds]

theorem EndsOnce.dropFinalLineFeeds (once : EndsOnce text) :
    text.dropFinalLineFeeds = text.dropFinalLineFeed := by
  rcases eq_dropFinalLineFeed text with whole | ended
  · rw [← whole]
    exact Unended.dropFinalLineFeeds (whole ▸ once)
  · calc
      text.dropFinalLineFeeds = (text.dropFinalLineFeed ++ ['\n']).dropFinalLineFeeds := by
        rw [← ended]
      _ = text.dropFinalLineFeed.dropFinalLineFeeds := dropFinalLineFeeds_append _
      _ = text.dropFinalLineFeed := Unended.dropFinalLineFeeds once

end EndsOnce

end FunctionCalculator.Text
