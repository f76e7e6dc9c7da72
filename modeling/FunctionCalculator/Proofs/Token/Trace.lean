import FunctionCalculator.Proofs.Token.Words
/-!
The trace of a text determines the text. Nothing marks where the repeated text ends and the lines of
its tokens begin, and a text may look like the trace of another one. But a text that goes on after a
line feed has all the tokens of its front, and so a longer trace.
-/

set_option autoImplicit false

namespace FunctionCalculator.Token

def traceLines (text : Text) : Text := (scan text).flatMap traceLine

theorem trace_eq (text : Text) :
    trace text = "Function Declaration: ".toList ++ (text ++ '\n' :: traceLines text) := by
  unfold trace traceLines
  simp only [List.append_assoc, List.singleton_append]

theorem traceLines_append (front back : Text) :
    traceLines (front ++ '\n' :: back) = traceLines front ++ traceLines back := by
  have blank : Text.isBlank '\n' = true := by decide
  rw [traceLines, scan_append_blank blank, List.flatMap_append]
  rfl

/-- No text goes on like its own trace, down to the end of the trace of the whole. -/
theorem nil_of_continued {front back : Text}
    (same : '\n' :: traceLines front = back ++ '\n' :: traceLines (front ++ back)) : back = [] := by
  cases back with
  | nil => rfl
  | cons c rest =>
    rw [List.cons_append, List.cons.injEq] at same
    obtain ⟨rfl, lines⟩ := same
    rw [traceLines_append] at lines
    have lengths := congrArg List.length lines
    simp only [List.length_append, List.length_cons] at lengths
    omega

theorem trace_eq_iff (first second : Text) : trace first = trace second ↔ first = second := by
  refine ⟨fun same => ?_, congrArg trace⟩
  rw [trace_eq, trace_eq, List.append_cancel_left_eq, List.append_eq_append_iff] at same
  obtain ⟨back, rfl, lines⟩ | ⟨back, rfl, lines⟩ := same
  · rw [nil_of_continued lines, List.append_nil]
  · rw [nil_of_continued lines, List.append_nil]

-- One trace may still be the beginning of another.
example : (trace "a").isPrefixOf (trace "a\nToken: a -> IT") = true := by decide +kernel

end FunctionCalculator.Token
