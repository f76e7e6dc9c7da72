import FunctionCalculator.Proofs.Code.Execution
import FunctionCalculator.Proofs.Code.Naming
import FunctionCalculator.Proofs.Evaluation.Outcome
/-!
The listing of a builtin over integers computes what the builtin does. Both tables are written by
hand; they agree on every value and stop at the same divisions by zero.
-/

set_option autoImplicit false

namespace FunctionCalculator

def Error.IsZeroDivision : Error → Prop
  | .moduloByZero | .fault .zeroRemainder | .fault .zeroQuotient => True
  | _ => False

namespace Code

/-- The builtins whose code and whose meaning stay within the integers and their comparisons. -/
def integral : List Builtin := [
  .add, .subtract, .multiply, .modulus, .isEven, .isOdd, .increment, .decrement, .findMax, .findMin,
  .absoluteValue, .absoluteDifference, .isPositive, .isMultiple, .maxOfThree, .minOfThree]

inductive Matches : Except Stop Value → Except Error Value → Prop
  | value (value : Value) : Matches (.ok value) (.ok value)
  | zero {error : Error} (zero : error.IsZeroDivision) :
    Matches (.error .zeroRemainder) (.error error)

theorem Matches.int {a b : Int} (same : a = b) : Matches (.ok (.int a)) (.ok (.int b)) :=
  same ▸ .value (.int a)

section Templates

theorem computed_append (values temporaries : List Value) (first rest : List (Term Nat)) :
    computed values temporaries (first ++ rest) =
      computed values temporaries first >>= fun all => computed values all rest := by
  induction first generalizing temporaries with
  | nil => rfl
  | cons term first ih =>
    simp only [List.cons_append, computed, bind_assoc]
    exact bind_congr fun value => ih (temporaries ++ [value])

theorem computed_arguments (values : List Value) {count : Nat} (enough : count ≤ values.length) :
    computed values [] ((List.range count).map arg) = .ok (values.take count) := by
  induction count with
  | zero => rfl
  | succ count ih =>
    have read : argumentValue values count = .ok values[count] :=
      known_eq_ok.2 (List.getElem?_eq_getElem enough)
    rw [List.range_succ, List.map_append, computed_append, ih (Nat.le_of_succ_le enough),
      List.take_succ_eq_append_getElem enough, List.map_singleton]
    show argumentValue values count >>= _ = _
    rw [read]
    rfl

-- Most templates only name their arguments before the term that computes the result.
theorem outcome_arguments (values : List Value) (term : Term Nat) :
    outcome values ((List.range values.length).map arg ++ [term]) =
      term.value (argumentValue values) (holding values) := by
  rw [outcome, computed_append, computed_arguments values (Nat.le_refl _), List.take_length]
  show (term.value _ _ >>= fun value => .ok (values ++ [value])) >>= last = _
  cases term.value (argumentValue values) (holding values) with
  | error => rfl
  | ok value =>
    show last (values ++ [value]) = _
    rw [last, List.getLast?_concat, known]

theorem outcome_modulus (a b : Int) :
    outcome [.int a, .int b] (template .modulus) =
      if b = 0 then .error .zeroRemainder else .ok (.int (a.tmod b)) :=
  outcome_arguments [.int a, .int b] (.binary .modulo (temp 1) (temp 2))

theorem outcome_isMultiple (a b : Int) :
    outcome [.int a, .int b] (template .isMultiple) =
      if b = 0 then .error .zeroRemainder else .ok (.bool (a.tmod b = 0)) := by
  have remainder : outcome [.int a, .int b] (template .isMultiple) =
      Operator.apply .modulo a b >>= fun value => integer value >>= fun r => .ok (.bool (r = 0)) :=
    outcome_arguments [.int a, .int b] _
  rw [remainder, Operator.apply]
  split <;> rfl

theorem outcome_findMax (a b : Int) :
    outcome [.int a, .int b] (template .findMax) = .ok (.int (max a b)) := by
  have chosen : outcome [.int a, .int b] (template .findMax) =
      if decide (a > b) then .ok (.int a) else .ok (.int b) :=
    outcome_arguments [.int a, .int b] _
  rw [chosen]
  grind

theorem outcome_findMin (a b : Int) :
    outcome [.int a, .int b] (template .findMin) = .ok (.int (min a b)) := by
  have chosen : outcome [.int a, .int b] (template .findMin) =
      if decide (a < b) then .ok (.int a) else .ok (.int b) :=
    outcome_arguments [.int a, .int b] _
  rw [chosen]
  grind

end Templates

theorem outcome_matches {builtin : Builtin} (member : builtin ∈ integral) {numbers : List Int}
    (count : numbers.length = builtin.arity) :
    ∃ result, Evaluation.applied? builtin (numbers.map .int) = some result ∧
      Matches (outcome (numbers.map .int) (template builtin)) result := by
  cases builtin with
  | add | subtract | multiply =>
    obtain ⟨a, b, rfl⟩ := List.length_eq_two.1 count
    exact ⟨_, rfl, .value _⟩
  | increment | decrement | isPositive =>
    obtain ⟨a, rfl⟩ := List.length_eq_one_iff.1 count
    exact ⟨_, rfl, .value _⟩
  | isEven =>
    obtain ⟨a, rfl⟩ := List.length_eq_one_iff.1 count
    have computed := Evaluation.checked_remainder (· = 0) a two_ne_zero
    exact ⟨_, congrArg some computed, .value _⟩
  | isOdd =>
    obtain ⟨a, rfl⟩ := List.length_eq_one_iff.1 count
    have computed := Evaluation.checked_remainder (· ≠ 0) a two_ne_zero
    exact ⟨_, congrArg some computed, .value _⟩
  | findMax =>
    obtain ⟨a, b, rfl⟩ := List.length_eq_two.1 count
    exact ⟨_, rfl, outcome_findMax a b ▸ .value _⟩
  | findMin =>
    obtain ⟨a, b, rfl⟩ := List.length_eq_two.1 count
    exact ⟨_, rfl, outcome_findMin a b ▸ .value _⟩
  | absoluteValue =>
    obtain ⟨a, rfl⟩ := List.length_eq_one_iff.1 count
    exact ⟨_, rfl, .int (Int.abs_eq_natAbs a)⟩
  | absoluteDifference =>
    obtain ⟨a, b, rfl⟩ := List.length_eq_two.1 count
    exact ⟨_, rfl, .int (Int.abs_eq_natAbs (a - b))⟩
  | maxOfThree =>
    obtain ⟨a, b, c, rfl⟩ := List.length_eq_three.1 count
    exact ⟨_, rfl, .int (max_assoc a b c)⟩
  | minOfThree =>
    obtain ⟨a, b, c, rfl⟩ := List.length_eq_three.1 count
    exact ⟨_, rfl, .int (min_assoc a b c)⟩
  | modulus =>
    obtain ⟨a, b, rfl⟩ := List.length_eq_two.1 count
    by_cases zero : b = 0
    · subst zero
      exact ⟨.error .moduloByZero, rfl, .zero trivial⟩
    · have computed := Evaluation.checked_of_ok .int (Integer.remainder_of_ne a zero)
      refine ⟨_, congrArg some ((if_neg zero).trans computed), ?_⟩
      exact ((outcome_modulus a b).trans (if_neg zero)) ▸ .value _
  | isMultiple =>
    obtain ⟨a, b, rfl⟩ := List.length_eq_two.1 count
    by_cases zero : b = 0
    · subst zero
      exact ⟨.error (.fault .zeroRemainder), rfl, .zero trivial⟩
    · refine ⟨_, congrArg some (Evaluation.checked_remainder (· = 0) a zero), ?_⟩
      exact ((outcome_isMultiple a b).trans (if_neg zero)) ▸ .value _
  | _ => exact absurd member (by decide)

section Arguments

def Reads (arguments : List Text) (numbers : List Int) : Prop :=
  List.Forall₂ (fun text number => Integer.read? text = some number) arguments numbers

variable {arguments : List Text} {numbers : List Int}

theorem Reads.trim_eq (reads : Reads arguments numbers) : arguments.map Text.trim = arguments := by
  induction reads with
  | nil => rfl
  | cons read _ ih => rw [List.map_cons, ih, Integer.trimmed_of_read read]

theorem Reads.literal_eq (reads : Reads arguments numbers) {index : Nat} {text : Text}
    (given : argument arguments index = .ok text) :
    literal text = argumentValue (numbers.map .int) index := by
  rw [argument_eq_ok] at given
  induction reads generalizing index with
  | nil => cases given
  | cons read _ ih =>
    cases index with
    | zero =>
      obtain rfl := Option.some.inj given
      rw [literal, read]
      rfl
    | succ index => exact ih given

theorem Reads.valuesOf_eq (reads : Reads arguments numbers) :
    Evaluation.unread? (List.replicate arguments.length .integer) arguments = none ∧
      Evaluation.valuesOf (List.replicate arguments.length .integer) arguments =
        numbers.map .int := by
  induction reads with
  | nil => exact ⟨rfl, rfl⟩
  | cons read _ ih =>
    have accepted : Reading.integer.read? _ = some _ := read
    rw [List.length_cons, List.replicate_succ, Evaluation.unread_cons,
      Evaluation.valuesOf_cons accepted, accepted]
    exact ⟨ih.1, congrArg _ ih.2⟩

end Arguments

theorem readings_of_integral {builtin : Builtin} (member : builtin ∈ integral) :
    builtin.readings = List.replicate builtin.arity .integer := by
  revert builtin
  decide

-- Showing a value can fail as well, but never with a division by zero.
theorem shown_zeroDivision {result : Except Error Value} :
    (∃ error, Evaluation.shown result = .error error ∧ error.IsZeroDivision) ↔
      ∃ error, result = .error error ∧ error.IsZeroDivision := by
  cases result with
  | error error => simp [Evaluation.shown]
  | ok value =>
    refine iff_of_false ?_ (by simp)
    rintro ⟨error, unshown, zero⟩
    obtain rfl := Evaluation.shown_error unshown
    exact zero

theorem Matches.execution {code : List Instruction} {run : Except Stop Value}
    {result : Except Error Value}
    (ran : (execute code >>= fun environment => held environment .result) = run)
    (matched : Matches run result) :
    (∀ value, (∃ environment, execute code = .ok environment ∧
      environment .result = some value) ↔ result = .ok value) ∧
    ∀ stop, execute code = .error stop ↔
      stop = .zeroRemainder ∧ ∃ error, result = .error error ∧ error.IsZeroDivision := by
  cases executed : execute code with
  | error stop =>
    obtain rfl : run = .error stop := ran.symm.trans (by rw [executed]; rfl)
    obtain _ | zero := matched
    simp [zero, eq_comm]
  | ok environment =>
    have kept : held environment .result = run := by rw [← ran, executed]; rfl
    cases matched with
    | value value =>
      simp [known_eq_ok.1 kept]
    | zero zero =>
      cases found : environment .result <;> simp [held, found, known] at kept

/-- Executing the code of an integral builtin on texts of integers leaves the value of the builtin
in the result, and stops, at a remainder by zero, exactly when the evaluation divides by zero. -/
theorem execute_agrees {builtin : Builtin} (member : builtin ∈ integral) {name : Text}
    (cased : name.map Char.toLower = builtin.name) {arguments : List Text} {numbers : List Int}
    (reads : Reads arguments numbers) (count : arguments.length = builtin.arity) :
    ∃ code result, emit (some name) (arguments.map some) = .ok code ∧
      Evaluation.applied? builtin (numbers.map .int) = some result ∧
      (∀ value, (∃ environment, execute code = .ok environment ∧
        environment .result = some value) ↔ result = .ok value) ∧
      ∀ stop, execute code = .error stop ↔
        stop = .zeroRemainder ∧
          ∃ error, Evaluation.evaluate name arguments = .error error ∧ error.IsZeroDivision := by
  have length : numbers.length = builtin.arity := reads.length_eq.symm.trans count
  obtain ⟨result, applied, matched⟩ := outcome_matches member length
  obtain ⟨code, assigned⟩ := assign_ok (count ▸ template_arguments builtin) 1
  have emitted : emit (some name) (arguments.map some) = .ok code := by
    rw [emit_of_supported (named_resolve cased), reads.trim_eq, assigned]
  have ran := execute_assign (fun index text given => reads.literal_eq given) assigned
  have evaluated : Evaluation.evaluate name arguments = Evaluation.shown result := by
    obtain ⟨accepted, values⟩ := reads.valuesOf_eq
    rw [count, ← readings_of_integral member] at accepted values
    have enough : builtin.readings.length ≤ arguments.length :=
      (builtin.length_readings.trans count.symm).le
    have applies := Evaluation.onTexts_of_read _ builtin.meaning arguments enough accepted
    rw [values] at applies
    rw [Evaluation.evaluate_of_found (Builtin.find_of_cased cased) count.ge,
      Option.some.inj (applies.symm.trans applied)]
  obtain ⟨values, stops⟩ := matched.execution ran
  refine ⟨code, result, emitted, applied, values, ?_⟩
  simpa only [evaluated, shown_zeroDivision] using stops

theorem execute_agrees_modulus :
    Reads ["-7", "+03"] [-7, 3] ∧
      ∃ code, emit (some "Modulus") [some "-7", some "+03"] = .ok code ∧
        (∃ environment, execute code = .ok environment ∧
          environment .result = some (.int (-1))) ∧
        ∀ error, Evaluation.evaluate "Modulus" ["-7", "+03"] = .error error →
          ¬ error.IsZeroDivision := by
  have reads : Reads ["-7", "+03"] [-7, 3] :=
    .cons (by decide +kernel) (.cons (by decide +kernel) .nil)
  obtain ⟨code, result, emitted, applied, values, stops⟩ :=
    @execute_agrees .modulus (by decide) "Modulus" (by decide) _ _ reads rfl
  obtain rfl : result = .ok (.int (-1)) := Option.some.inj applied.symm
  obtain ⟨environment, executed, kept⟩ := (values _).2 rfl
  refine ⟨reads, code, emitted, ⟨environment, executed, kept⟩, fun error evaluated zero => ?_⟩
  cases executed.symm.trans ((stops .zeroRemainder).2 ⟨rfl, error, evaluated, zero⟩)

end Code
end FunctionCalculator
