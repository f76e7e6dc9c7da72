import FunctionCalculator.Proofs.Integer.Digits
/-!
The digits of a number, turn by turn. A turn takes off the lowest digit and leaves the ones above
it, so the digits taken and the number left always make up the number at the start. The turns end,
and those that leave nothing give the decimal expansion, which is the only one.
-/

set_option autoImplicit false

namespace FunctionCalculator.Integer

inductive Turn : Nat → Nat → Nat → Prop
  | take {n : Nat} (nonzero : n ≠ 0) : Turn n (n % 10) (n / 10)

/-- Turns from a number, the digits that they take off in order, and the number left. -/
inductive Turns : Nat → List Nat → Nat → Prop
  | done {n : Nat} : Turns n [] n
  | more {n d next left : Nat} {taken : List Nat} (turn : Turn n d next)
      (turns : Turns next taken left) : Turns n (d :: taken) left

def TurnsEnd (n : Nat) : Prop := Acc (fun next n => ∃ d, Turn n d next) n

def placeValue (values : List Nat) : Nat := (values.mapIdx fun i d => d * 10 ^ i).sum

structure Expansion (n : Nat) (values : List Nat) : Prop where
  small : ∀ d ∈ values, d ≤ 9
  highest : ∀ d, values.getLast? = some d → d ≠ 0
  value : placeValue values = n

variable {n d next left : Nat} {taken values : List Nat}

theorem placeValue_eq (values : List Nat) : placeValue values = Nat.ofDigits 10 values :=
  (Nat.ofDigits_eq_sum_mapIdx 10 values).symm

theorem placeValue_nil : placeValue [] = 0 := rfl

theorem placeValue_cons (d : Nat) (values : List Nat) :
    placeValue (d :: values) = d + 10 * placeValue values := by
  rw [placeValue_eq, placeValue_eq, Nat.ofDigits_cons]

section Turns

theorem Turn.split (turn : Turn n d next) : n ≠ 0 ∧ d ≤ 9 ∧ n = d + 10 * next := by
  cases turn with
  | take nonzero => omega

theorem Turn.shrinks (turn : Turn n d next) : next < n := by
  obtain ⟨nonzero, -, sum⟩ := turn.split
  omega

theorem turnsEnd (n : Nat) : TurnsEnd n :=
  Subrelation.accessible (fun ⟨_, turn⟩ => turn.shrinks) (Nat.lt_wfRel.wf.apply n)

theorem Turns.small (turns : Turns n taken left) : ∀ d ∈ taken, d ≤ 9 := by
  induction turns with
  | done => simp
  | more turn _ ih => exact List.forall_mem_cons.2 ⟨turn.split.2.1, ih⟩

theorem Turns.value (turns : Turns n taken left) :
    n = placeValue taken + 10 ^ taken.length * left := by
  induction turns with
  | done => simp [placeValue_nil]
  | @more n d next left taken turn _ ih =>
    obtain ⟨-, -, sum⟩ := turn.split
    calc
      n = d + 10 * (placeValue taken + 10 ^ taken.length * left) := by rw [← ih, sum]
      _ = d + 10 * placeValue taken + 10 ^ (taken.length + 1) * left := by ring
      _ = placeValue (d :: taken) + 10 ^ (d :: taken).length * left := by
        rw [placeValue_cons, List.length_cons]

-- No turn starts from zero, so the digit taken last and the number left are not both zero.
theorem Turns.highest (turns : Turns n taken left) :
    ∀ d, taken.getLast? = some d → d + 10 * left ≠ 0 := by
  induction turns with
  | done => simp
  | more turn turns ih =>
    cases turns with
    | done =>
      obtain ⟨nonzero, -, sum⟩ := turn.split
      rintro _ ⟨⟩
      exact sum ▸ nonzero
    | more => simpa using ih

theorem Turns.expansion (turns : Turns n taken 0) : Expansion n taken where
  small := turns.small
  highest := turns.highest
  value := turns.value.symm

theorem turns_zero_iff : Turns n taken 0 ↔ taken = digits n := by
  fun_induction digits n generalizing taken with
  | case1 =>
    constructor
    · rintro (_ | ⟨⟨nonzero⟩, _⟩)
      · rfl
      · exact absurd rfl nonzero
    · rintro rfl
      exact .done
  | case2 n nonzero ih =>
    constructor
    · rintro (_ | ⟨⟨_⟩, turns⟩)
      · exact absurd rfl nonzero
      · rw [ih.1 turns]
    · rintro rfl
      exact .more (.take nonzero) (ih.2 rfl)

end Turns

section Expansion

theorem Expansion.eq_digits (expansion : Expansion n values) : values = digits n := by
  have value : Nat.ofDigits 10 values = n := placeValue_eq values ▸ expansion.value
  rw [digits_eq, ← value]
  refine (Nat.digits_ofDigits 10 (by decide) values (fun d member => ?_) fun nonempty => ?_).symm
  · exact Nat.lt_succ_of_le (expansion.small d member)
  · exact expansion.highest _ (List.getLast?_eq_some_getLast nonempty)

theorem expansion_iff : Expansion n values ↔ values = digits n := by
  constructor
  · exact Expansion.eq_digits
  · intro same
    exact (turns_zero_iff.2 same).expansion

example : digits 120 = [0, 2, 1] := by decide +kernel

end Expansion

end FunctionCalculator.Integer
