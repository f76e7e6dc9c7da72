import FunctionCalculator.Proofs.Binary64.Overflow
import FunctionCalculator.Proofs.Builtin.Lookup
import FunctionCalculator.Proofs.Evaluation.Arguments
import FunctionCalculator.Proofs.Integer.Digits
import FunctionCalculator.Proofs.Integer.Euclid
import FunctionCalculator.Proofs.Message
/-!
Whether an evaluation fails, and with which error: a function of the name, of the texts of the
arguments and of the values that they are read as.
-/

set_option autoImplicit false

namespace FunctionCalculator.Evaluation

def undefined? : Builtin → List Value → Option Error
  | .divide, [_, .double b] => if b.isZero then some .divisionByZero else none
  | .reciprocal, [.double a] => if a.isZero then some .divisionByZero else none
  | .modulus, [_, .int b] => if b = 0 then some .moduloByZero else none
  | .lcm, [.int a, .int b] => if a = 0 ∧ b = 0 then some (.fault .zeroQuotient) else none
  | .isMultiple, [_, .int b] => if b = 0 then some (.fault .zeroRemainder) else none
  | .isPerfectSquare, [.int n] =>
    if (Binary64.integerLimit : Int) ≤ n then some (.fault .tooLargeForDouble) else none
  | _, _ => none

def applied? (builtin : Builtin) (values : List Value) : Option (Except Error Value) :=
  Meaning.onValues? builtin.readings builtin.meaning values

def unwritable? : Option (Except Error Value) → Option Error
  | some (.ok (.int n)) =>
    if Integer.maxDigits < Integer.size n then some (.fault .tooManyDigits) else none
  | _ => none

/-- The error of an evaluation. The name is looked up first, then the arguments are counted and read
from the left, then the values are looked at, and the text of the result comes last. -/
def failure? (name : Text) (arguments : List Text) : Option Error :=
  match Registry.standard.lookup name with
  | none => some (.unknownFunction name)
  | some signature =>
    if arguments.length < signature.arity then some .missingParameters
    else
      (Builtin.named? signature.name).bind fun builtin =>
        match unread? builtin.readings arguments with
        | some argument => some (.invalidNumber argument)
        | none =>
          let values := valuesOf builtin.readings arguments
          (undefined? builtin values).or (unwritable? (applied? builtin values))

section Computation

def Readable (values : List Value) : Prop :=
  ∀ n, Value.int n ∈ values → Integer.size n ≤ Integer.maxDigits

theorem valuesOf_readable (readings : List Reading) (arguments : List Text) :
    Readable (valuesOf readings arguments) := by
  intro n member
  obtain ⟨reading, argument, carried, accepted, same⟩ := mem_valuesOf member
  cases reading with
  | integer =>
    obtain rfl := Value.int.inj same
    exact Integer.size_of_read accepted
  | double => cases same
  | text => cases same

def Computes (builtin : Builtin) (values : List Value) : Prop :=
  (∃ error, undefined? builtin values = some error ∧
      applied? builtin values = some (.error error)) ∨
    undefined? builtin values = none ∧ ∃ value, applied? builtin values = some (.ok value)

theorem checked_of_ok {α : Type} (wrap : α → Value) {result : Except Fault α} {value : α}
    (computed : result = .ok value) : Builtin.checked wrap result = .ok (wrap value) := by
  rw [computed, Builtin.checked]

theorem checked_of_error {α : Type} (wrap : α → Value) {result : Except Fault α} {cause : Fault}
    (failed : result = .error cause) : Builtin.checked wrap result = .error (.fault cause) := by
  rw [failed, Builtin.checked]

theorem checked_remainder (test : Int → Bool) (a : Int) {b : Int} (nonzero : b ≠ 0) :
    Builtin.checked .bool ((Integer.remainder a b).map test) =
      .ok (.bool (test (a.tmod b))) := by
  rw [Integer.remainder_of_ne a nonzero]
  rfl

theorem lcm_of_zero {a b : Int} (zero : a = 0 ∧ b = 0) : Integer.lcm a b = .error .zeroQuotient :=
  if_pos (Integer.gcd_eq_zero_iff.2 zero)

theorem lcm_of_nonzero {a b : Int} (nonzero : ¬ (a = 0 ∧ b = 0)) : ∃ c, Integer.lcm a b = .ok c :=
  ⟨_, if_neg fun zero => nonzero (Integer.gcd_eq_zero_iff.1 zero)⟩

theorem isPerfectSquare_of_large {n : Int} (large : (Binary64.integerLimit : Int) ≤ n) :
    Integer.isPerfectSquare n = .error .tooLargeForDouble := by
  obtain ⟨m, rfl⟩ := Int.eq_ofNat_of_zero_le (le_trans (Int.natCast_nonneg _) large)
  have overflows := (Binary64.ofInt_natCast_eq_none_iff m).2 (Int.ofNat_le.1 large)
  rw [Integer.isPerfectSquare, if_neg (by omega), overflows]

theorem isPerfectSquare_of_small {n : Int} (small : ¬ (Binary64.integerLimit : Int) ≤ n) :
    ∃ square, Integer.isPerfectSquare n = .ok square := by
  by_cases negative : n < 0
  · exact ⟨false, if_pos negative⟩
  · obtain ⟨m, rfl⟩ := Int.eq_ofNat_of_zero_le (Int.not_lt.1 negative)
    have converts : Binary64.ofInt? m ≠ none := by
      rw [Ne, Binary64.ofInt_natCast_eq_none_iff]
      exact fun large => small (Int.ofNat_le.2 large)
    obtain ⟨x, found⟩ := Option.ne_none_iff_exists'.1 converts
    rw [Integer.isPerfectSquare, if_neg negative, found]
    exact ⟨_, rfl⟩

-- Most of the arithmetic is total. The builtins whose values are looked at come last, each split
-- where its values stop being accepted.
theorem computes (builtin : Builtin) (values : List Value) (fits : Fits builtin.readings values)
    (readable : Readable values) : Computes builtin values := by
  cases builtin with
  | add | subtract | multiply | findMax | findMin | gcd | absoluteDifference =>
    obtain ⟨a, b, rfl⟩ := Fits.two (r := .integer) (s := .integer) fits
    exact .inr ⟨rfl, _, rfl⟩
  | increment | decrement | isPrime | absoluteValue | isPositive | sumOfDigits | sumOfSquares
  | isEven | isOdd =>
    obtain ⟨a, rfl⟩ := Fits.one (r := .integer) fits
    exact .inr ⟨rfl, _, rfl⟩
  | power | nthRoot | percentage | areaOfRectangle | cubeOfDifference | mean =>
    obtain ⟨a, b, rfl⟩ := Fits.two (r := .double) (s := .double) fits
    exact .inr ⟨rfl, _, rfl⟩
  | squareRoot | cubeRoot | halfValue | doubleValue | sin | cos | tan | cot | sec | cosec | ceil
  | floor | round | degreesToRadians | radiansToDegrees | areaOfSquare | areaOfCircle =>
    obtain ⟨a, rfl⟩ := Fits.one (r := .double) fits
    exact .inr ⟨rfl, _, rfl⟩
  | maxOfThree | minOfThree =>
    obtain ⟨a, b, c, rfl⟩ := Fits.three (r := .integer) (s := .integer) (t := .integer) fits
    exact .inr ⟨rfl, _, rfl⟩
  | averageOfThree =>
    obtain ⟨a, b, c, rfl⟩ := Fits.three (r := .double) (s := .double) (t := .double) fits
    exact .inr ⟨rfl, _, rfl⟩
  | isPalindrome =>
    obtain ⟨a, rfl⟩ := Fits.one (r := .text) fits
    exact .inr ⟨rfl, _, rfl⟩
  | divide =>
    obtain ⟨a, b, rfl⟩ := Fits.two (r := .double) (s := .double) fits
    by_cases zero : b.isZero = true
    · exact .inl ⟨_, if_pos zero, congrArg some (if_pos zero)⟩
    · exact .inr ⟨if_neg zero, _, congrArg some (if_neg zero)⟩
  | reciprocal =>
    obtain ⟨a, rfl⟩ := Fits.one (r := .double) fits
    by_cases zero : a.isZero = true
    · exact .inl ⟨_, if_pos zero, congrArg some (if_pos zero)⟩
    · exact .inr ⟨if_neg zero, _, congrArg some (if_neg zero)⟩
  | modulus =>
    obtain ⟨a, b, rfl⟩ := Fits.two (r := .integer) (s := .integer) fits
    by_cases zero : b = 0
    · exact .inl ⟨_, if_pos zero, congrArg some (if_pos zero)⟩
    · have computed := checked_of_ok .int (Integer.remainder_of_ne a zero)
      exact .inr ⟨if_neg zero, _, congrArg some ((if_neg zero).trans computed)⟩
  | isMultiple =>
    obtain ⟨a, b, rfl⟩ := Fits.two (r := .integer) (s := .integer) fits
    by_cases zero : b = 0
    · subst zero
      exact .inl ⟨_, rfl, rfl⟩
    · exact .inr ⟨if_neg zero, _, congrArg some (checked_remainder (· = 0) a zero)⟩
  | lcm =>
    obtain ⟨a, b, rfl⟩ := Fits.two (r := .integer) (s := .integer) fits
    by_cases zero : a = 0 ∧ b = 0
    · exact .inl ⟨_, if_pos zero, congrArg some (checked_of_error .int (lcm_of_zero zero))⟩
    · obtain ⟨c, computed⟩ := lcm_of_nonzero zero
      exact .inr ⟨if_neg zero, .int c, congrArg some (checked_of_ok .int computed)⟩
  | isPerfectSquare =>
    obtain ⟨n, rfl⟩ := Fits.one (r := .integer) fits
    by_cases large : (Binary64.integerLimit : Int) ≤ n
    · have failed := checked_of_error .bool (isPerfectSquare_of_large large)
      exact .inl ⟨_, if_pos large, congrArg some failed⟩
    · obtain ⟨square, computed⟩ := isPerfectSquare_of_small large
      exact .inr ⟨if_neg large, .bool square, congrArg some (checked_of_ok .bool computed)⟩
  | reverseNumber =>
    obtain ⟨n, rfl⟩ := Fits.one (r := .integer) fits
    obtain ⟨m, computed⟩ := Integer.reverse_of_size (readable n (by simp [Reading.value]))
    exact .inr ⟨rfl, .int m, congrArg some (checked_of_ok .int computed)⟩

def Agrees (failure : Option Error) (result : Except Error Text) : Prop :=
  (∃ error, failure = some error ∧ result = .error error) ∨
    failure = none ∧ ∃ text, result = .ok text

theorem shown_ok (value : Value) :
    Agrees (unwritable? (some (.ok value))) (shown (.ok value)) := by
  cases value with
  | int n =>
    by_cases long : Integer.maxDigits < Integer.size n
    · refine .inl ⟨_, if_pos long, ?_⟩
      rw [shown, Value.shown, Integer.written_of_lt_size long]
      rfl
    · refine .inr ⟨if_neg long, Integer.text n, ?_⟩
      rw [shown, Value.shown, Integer.written_of_size (Nat.not_lt.1 long)]
      rfl
  | double x => exact .inr ⟨rfl, _, rfl⟩
  | bool b => exact .inr ⟨rfl, _, rfl⟩
  | text t => exact .inr ⟨rfl, _, rfl⟩

theorem shown_error {value : Value} {error : Error}
    (unshown : shown (.ok value) = .error error) : error = .fault .tooManyDigits := by
  cases value with
  | int n =>
    rw [shown, Value.shown] at unshown
    by_cases fits : Integer.size n ≤ Integer.maxDigits
    · rw [Integer.written_of_size fits] at unshown
      cases unshown
    · rw [Integer.written_of_lt_size (Nat.not_le.1 fits)] at unshown
      exact (Except.error.inj unshown).symm
  | double | bool | text => cases unshown

theorem evaluate_of_found {name : Text} {builtin : Builtin}
    (found : Builtin.find? name = some builtin) {arguments : List Text}
    (enough : builtin.arity ≤ arguments.length) :
    evaluate name arguments =
      shown (Meaning.onTexts builtin.readings builtin.meaning arguments) := by
  simp [evaluate, evaluateAmong, found, enough]

theorem evaluate_one (builtin : Builtin) (reading : Reading) {function : Meaning [reading]}
    (one : (⟨builtin.readings, builtin.meaning⟩ : (readings : List Reading) × Meaning readings) =
      ⟨[reading], function⟩)
    {argument : Text} {value : reading.Carrier} (accepted : reading.read? argument = some value) :
    evaluate builtin.name [argument] = shown (function value) := by
  have arity : builtin.readings.length = 1 := congrArg (·.1.length) one
  have enough : builtin.arity ≤ [argument].length := (builtin.length_readings.symm.trans arity).le
  rw [evaluate_of_found builtin.find_name enough]
  have applied := congrArg (fun meant => Meaning.onTexts meant.1 meant.2 [argument]) one
  exact congrArg shown (applied.trans (onTexts_one reading function accepted))

theorem shown_agrees (builtin : Builtin) (arguments : List Text)
    (enough : builtin.readings.length ≤ arguments.length)
    (accepted : unread? builtin.readings arguments = none) :
    Agrees
      ((undefined? builtin (valuesOf builtin.readings arguments)).or
        (unwritable? (applied? builtin (valuesOf builtin.readings arguments))))
      (shown (Meaning.onTexts builtin.readings builtin.meaning arguments)) := by
  have applied := onTexts_of_read builtin.readings builtin.meaning arguments enough accepted
  have fits := valuesOf_fits builtin.readings arguments enough accepted
  generalize Meaning.onTexts builtin.readings builtin.meaning arguments = result at applied ⊢
  obtain ⟨error, undefined, computed⟩ | ⟨defined, value, computed⟩ :=
    computes builtin _ fits (valuesOf_readable builtin.readings arguments)
  · obtain rfl : result = .error error := Option.some.inj (applied.symm.trans computed)
    exact .inl ⟨error, by rw [undefined, Option.some_or], rfl⟩
  · obtain rfl : result = .ok value := Option.some.inj (applied.symm.trans computed)
    rw [defined, Option.none_or, computed]
    exact shown_ok value

theorem evaluate_agrees (name : Text) (arguments : List Text) :
    Agrees (failure? name arguments) (evaluate name arguments) := by
  rw [failure?, evaluate, evaluateAmong, Registry.lookup_standard]
  cases found : Builtin.find? name with
  | none => exact .inl ⟨_, rfl, rfl⟩
  | some builtin =>
    have named : Builtin.named? builtin.signature.name = some builtin := builtin.named_name
    simp only [Option.map_some, named, Option.bind_some, if_true]
    by_cases few : arguments.length < builtin.arity
    · exact .inl ⟨_, if_pos few, if_pos few⟩
    · rw [if_neg few, if_neg (show ¬ arguments.length < builtin.signature.arity from few)]
      cases unread : unread? builtin.readings arguments with
      | some argument =>
        refine .inl ⟨_, rfl, ?_⟩
        rw [onTexts_of_unread _ _ _ unread]
        rfl
      | none =>
        have enough := Nat.not_lt.1 few
        exact shown_agrees builtin arguments (builtin.length_readings.symm ▸ enough) unread

theorem Agrees.error_iff {failure : Option Error} {result : Except Error Text}
    (agrees : Agrees failure result) (error : Error) :
    result = .error error ↔ failure = some error := by
  obtain ⟨other, rfl, rfl⟩ | ⟨rfl, text, rfl⟩ := agrees <;> simp

def OfKnown : Error → Prop
  | .missingParameters | .invalidNumber _ | .divisionByZero | .moduloByZero | .fault _ => True
  | _ => False

theorem OfKnown.echoed {error : Error} (known : OfKnown error) : error.echoed = [] := by
  cases error with
  | undefinedFunction | unknownFunction | unsupportedListing => exact known.elim
  | _ => rfl

def OfValues : Error → Prop
  | .divisionByZero | .moduloByZero | .fault _ => True
  | _ => False

theorem OfValues.ofKnown {error : Error} (values : OfValues error) : OfKnown error := by
  cases error with
  | divisionByZero | moduloByZero | fault => trivial
  | _ => exact values.elim

theorem undefined_ofValues {builtin : Builtin} {values : List Value} {error : Error}
    (undefined : undefined? builtin values = some error) : OfValues error := by
  unfold undefined? at undefined
  split at undefined
  case h_7 => cases undefined
  all_goals
    split at undefined
    · obtain rfl := Option.some.inj undefined
      trivial
    · cases undefined

theorem unwritable_ofValues {result : Option (Except Error Value)} {error : Error}
    (unwritable : unwritable? result = some error) : OfValues error := by
  unfold unwritable? at unwritable
  split at unwritable
  · split at unwritable
    · obtain rfl := Option.some.inj unwritable
      trivial
    · cases unwritable
  · cases unwritable

theorem or_ofValues {builtin : Builtin} {values : List Value} {error : Error}
    (failed : (undefined? builtin values).or (unwritable? (applied? builtin values)) = some error) :
    OfValues error := by
  rcases Option.or_eq_some_iff.1 failed with failed | ⟨_, failed⟩
  · exact undefined_ofValues failed
  · exact unwritable_ofValues failed

theorem failure_ofKnown {name : Text} {builtin : Builtin}
    (found : Builtin.find? name = some builtin)
    {arguments : List Text} {error : Error} (failed : failure? name arguments = some error) :
    OfKnown error := by
  simp only [failure?, Registry.lookup_standard, found, Option.map_some] at failed
  split at failed
  · obtain rfl := Option.some.inj failed
    trivial
  · obtain ⟨_, _, failed⟩ := Option.bind_eq_some_iff.1 failed
    split at failed
    · obtain rfl := Option.some.inj failed
      trivial
    · exact (or_ofValues failed).ofKnown

theorem failure_missing_iff {name : Text} {builtin : Builtin}
    (found : Builtin.find? name = some builtin) (arguments : List Text) :
    failure? name arguments = some .missingParameters ↔ arguments.length < builtin.arity := by
  simp only [failure?, Registry.lookup_standard, found, Option.map_some]
  by_cases few : arguments.length < builtin.arity
  · exact iff_of_true (if_pos few) few
  · rw [if_neg (show ¬ arguments.length < builtin.signature.arity from few)]
    refine iff_of_false (fun failed => ?_) few
    obtain ⟨_, _, failed⟩ := Option.bind_eq_some_iff.1 failed
    split at failed
    · cases failed
    · exact or_ofValues failed

theorem evaluate_error_of_found {name : Text} {builtin : Builtin}
    (found : Builtin.find? name = some builtin) {arguments : List Text} {error : Error}
    (evaluated : evaluate name arguments = .error error) : OfKnown error :=
  failure_ofKnown found (((evaluate_agrees name arguments).error_iff error).1 evaluated)

theorem evaluate_missing_iff {name : Text} {builtin : Builtin}
    (found : Builtin.find? name = some builtin) (arguments : List Text) :
    evaluate name arguments = .error .missingParameters ↔ arguments.length < builtin.arity :=
  ((evaluate_agrees name arguments).error_iff _).trans (failure_missing_iff found arguments)

theorem evaluate_of_unknown {name : Text} (unknown : Builtin.find? name = none)
    (arguments : List Text) : evaluate name arguments = .error (.unknownFunction name) := by
  simp [evaluate, evaluateAmong, unknown]

-- Of the call only the name is repeated, never an argument.
theorem evaluate_echoed {name : Text} {arguments : List Text} {error : Error}
    (evaluated : evaluate name arguments = .error error) :
    error.echoed = [] ∨ error.echoed = name := by
  cases found : Builtin.find? name with
  | none =>
    obtain rfl := Except.error.inj ((evaluate_of_unknown found arguments).symm.trans evaluated)
    exact .inr rfl
  | some builtin => exact .inl (evaluate_error_of_found found evaluated).echoed

theorem found_of_evaluate {name shown : Text} {arguments : List Text}
    (evaluated : evaluate name arguments = .ok shown) :
    ∃ builtin, Builtin.find? name = some builtin := by
  cases found : Builtin.find? name with
  | none => cases (evaluate_of_unknown found arguments).symm.trans evaluated
  | some builtin => exact ⟨builtin, rfl⟩

theorem evaluate_error_iff (name : Text) (arguments : List Text) :
    (∀ error, evaluate name arguments = .error error ↔ failure? name arguments = some error) ∧
      ((∃ text, evaluate name arguments = .ok text) ↔ failure? name arguments = none) := by
  obtain ⟨error, failed, result⟩ | ⟨unfailing, text, result⟩ := evaluate_agrees name arguments
  · rw [failed, result]
    simp
  · rw [unfailing, result]
    simp

end Computation
end FunctionCalculator.Evaluation
