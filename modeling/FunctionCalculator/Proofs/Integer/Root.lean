import FunctionCalculator.Integer.Arithmetic
import Mathlib.Algebra.Order.Ring.Nat
/-!
Whole roots: building a root one binary digit at a time ends with the greatest number whose power
does not exceed the radicand.
-/

set_option autoImplicit false

namespace FunctionCalculator.Integer

def RootWithin (degree n bits root : Nat) : Prop :=
  root ^ degree ≤ n ∧ n < (root + 2 ^ bits) ^ degree

theorem extendRoot_within {degree n bits root : Nat} (within : RootWithin degree n bits root) :
    RootWithin degree n 0 (extendRoot degree n bits root) := by
  induction bits generalizing root with
  | zero => exact within
  | succ bits ih =>
    obtain ⟨low, high⟩ := within
    have halves : root + 2 ^ (bits + 1) = root + 2 ^ bits + 2 ^ bits := by omega
    rw [extendRoot, Nat.one_shiftLeft]
    refine ih ?_
    split
    · next fits => exact ⟨fits, halves ▸ high⟩
    · next exceeds => exact ⟨low, Nat.not_le.1 exceeds⟩

theorem floorRoot_within {degree : Nat} (positive : 0 < degree) (n : Nat) :
    RootWithin degree n 0 (floorRoot degree n) := by
  refine extendRoot_within ⟨?_, ?_⟩
  · rw [Nat.zero_pow positive]
    exact Nat.zero_le n
  · have room : n.log2 + 1 ≤ (n.log2 / degree + 1) * degree := by
      rw [Nat.succ_mul]
      exact Nat.lt_div_mul_add positive
    calc
      n < 2 ^ (n.log2 + 1) := Nat.lt_log2_self
      _ ≤ 2 ^ ((n.log2 / degree + 1) * degree) := Nat.pow_le_pow_right (by decide) room
      _ = (0 + 2 ^ (n.log2 / degree + 1)) ^ degree := by rw [Nat.pow_mul, Nat.zero_add]

theorem le_floorRoot_iff {degree : Nat} (positive : 0 < degree) {n k : Nat} :
    k ≤ floorRoot degree n ↔ k ^ degree ≤ n := by
  obtain ⟨low, high⟩ := floorRoot_within positive n
  constructor
  · intro below
    exact (Nat.pow_le_pow_left below degree).trans low
  · intro fits
    exact Nat.le_of_lt_succ (lt_of_pow_lt_pow_left₀ degree (Nat.zero_le _) (fits.trans_lt high))

end FunctionCalculator.Integer
