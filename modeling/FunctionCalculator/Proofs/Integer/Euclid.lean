import FunctionCalculator.Proofs.Integer.Division
import Mathlib.Data.Int.GCD
import Mathlib.Logic.Relation
/-!
Repeated division, round by round. No sequence of rounds goes on for ever, and each round keeps the
common divisors, so the last divisor is a greatest common divisor whatever signs the remainders have
on the way. Only when one number is the opposite of the other does their order decide its sign.
-/

set_option autoImplicit false

namespace FunctionCalculator.Integer

inductive Round : Int × Int → Int × Int → Prop
  | divide {a b r : Int} (nonzero : b ≠ 0) (divided : remainder a b = .ok r) : Round (a, b) (b, r)

abbrev Rounds : Int × Int → Int × Int → Prop := Relation.ReflTransGen Round

def RoundsEnd (pair : Int × Int) : Prop := Acc (fun next pair => Round pair next) pair

variable {a b : Int} {pair next last : Int × Int}

section Divisor

theorem natAbs_gcd (a b : Int) : (gcd a b).natAbs = Int.gcd a b := by
  fun_induction gcd a b with
  | case1 a => simp
  | case2 a b nonzero ih =>
    rw [ih, signedRemainder_eq_tmod, Int.gcd_comm a b, Int.gcd, Int.gcd, Int.natAbs_tmod,
      Nat.gcd_comm, ← Nat.gcd_rec]

theorem gcd_eq_zero_iff : gcd a b = 0 ↔ a = 0 ∧ b = 0 := by
  rw [← Int.natAbs_eq_zero, natAbs_gcd, Int.gcd_eq_zero_iff]

theorem tmod_of_natAbs_lt (less : a.natAbs < b.natAbs) : a.tmod b = a := by
  have quotient : a.tdiv b = 0 := by
    rw [← Int.natAbs_eq_zero, Int.natAbs_tdiv]
    exact Nat.div_eq_of_lt less
  simpa [quotient] using Int.tmod_add_mul_tdiv a b

-- The first remainder is the dividend itself, and the two change places.
theorem gcd_of_natAbs_lt (less : a.natAbs < b.natAbs) : gcd a b = gcd b a := by
  have nonzero : b ≠ 0 := Int.natAbs_pos.1 (Nat.zero_lt_of_lt less)
  rw [gcd, if_neg nonzero, signedRemainder_eq_tmod, tmod_of_natAbs_lt less]

theorem gcd_comm_of_natAbs_ne (other : a.natAbs ≠ b.natAbs) : gcd a b = gcd b a := by
  obtain less | greater := Nat.lt_or_gt_of_ne other
  · exact gcd_of_natAbs_lt less
  · exact (gcd_of_natAbs_lt greater).symm

theorem gcd_comm_of_add_ne (other : a + b ≠ 0) : gcd a b = gcd b a := by
  by_cases size : a.natAbs = b.natAbs
  · obtain same | opposite := Int.natAbs_eq_natAbs_iff.1 size
    · rw [same]
    · exact absurd (by omega) other
  · exact gcd_comm_of_natAbs_ne size

theorem gcd_neg (a : Int) : gcd a (-a) = -a := by
  by_cases zero : a = 0
  · rw [zero, Int.neg_zero, gcd, if_pos rfl]
  · have remainder : signedRemainder a (-a) = 0 := by
      rw [signedRemainder_eq_tmod, Int.tmod_neg, Int.tmod_self]
    rw [gcd, if_neg (Int.neg_ne_zero.2 zero), remainder, gcd, if_pos rfl]

end Divisor

section Rounds

theorem round_iff : Round (a, b) next ↔ b ≠ 0 ∧ next = (b, a.tmod b) := by
  constructor
  · rintro ⟨nonzero, divided⟩
    rw [remainder_of_ne a nonzero] at divided
    exact ⟨nonzero, congrArg (b, ·) (Except.ok.inj divided).symm⟩
  · rintro ⟨nonzero, rfl⟩
    exact .divide nonzero (remainder_of_ne a nonzero)

theorem Round.shrinks (round : Round pair next) : next.2.natAbs < pair.2.natAbs := by
  obtain ⟨a, b⟩ := pair
  obtain ⟨nonzero, rfl⟩ := round_iff.1 round
  rw [Int.natAbs_tmod]
  exact Nat.mod_lt _ (Int.natAbs_pos.2 nonzero)

theorem Round.common_dvd_iff (round : Round pair next) (d : Int) :
    d ∣ next.1 ∧ d ∣ next.2 ↔ d ∣ pair.1 ∧ d ∣ pair.2 := by
  obtain ⟨a, b⟩ := pair
  obtain ⟨-, rfl⟩ := round_iff.1 round
  -- The divisor stays, and only the dividend gives way to the remainder.
  rw [and_comm, and_congr_left_iff]
  intro divides
  have product : d ∣ b * a.tdiv b := Dvd.dvd.mul_right divides (a.tdiv b)
  calc
    d ∣ a.tmod b ↔ d ∣ a.tmod b + b * a.tdiv b := (Int.dvd_add_left product).symm
    _ ↔ d ∣ a := by rw [Int.tmod_add_mul_tdiv]

theorem Round.nonneg (round : Round pair next) (signs : 0 ≤ pair.1 ∧ 0 ≤ pair.2) :
    0 ≤ next.1 ∧ 0 ≤ next.2 := by
  obtain ⟨a, b⟩ := pair
  obtain ⟨-, rfl⟩ := round_iff.1 round
  exact ⟨signs.2, Int.tmod_nonneg b signs.1⟩

theorem roundsEnd (pair : Int × Int) : RoundsEnd pair :=
  Subrelation.accessible Round.shrinks
    ((measure fun pair : Int × Int => pair.2.natAbs).wf.apply pair)

theorem Rounds.common_dvd_iff (rounds : Rounds pair last) (d : Int) :
    d ∣ last.1 ∧ d ∣ last.2 ↔ d ∣ pair.1 ∧ d ∣ pair.2 := by
  induction rounds with
  | refl => rfl
  | tail _ round ih => exact (round.common_dvd_iff d).trans ih

theorem Rounds.nonneg (rounds : Rounds pair last) (signs : 0 ≤ pair.1 ∧ 0 ≤ pair.2) :
    0 ≤ last.1 ∧ 0 ≤ last.2 := by
  induction rounds with
  | refl => exact signs
  | tail _ round ih => exact round.nonneg ih

theorem rounds_iff : Rounds pair last ↔ pair = last ∨ ∃ next, Round pair next ∧ Rounds next last :=
  Relation.ReflTransGen.cases_head_iff

theorem rounds_zero_iff (a b g : Int) : Rounds (a, b) (g, 0) ↔ g = gcd a b := by
  fun_induction gcd a b with
  | case1 a =>
    rw [rounds_iff]
    simp [round_iff, eq_comm]
  | case2 a b nonzero ih =>
    rw [rounds_iff, ← ih]
    simp [round_iff, nonzero, signedRemainder_eq_tmod]

theorem rounds_gcd (a b : Int) : Rounds (a, b) (gcd a b, 0) :=
  (rounds_zero_iff a b _).2 rfl

theorem dvd_gcd_iff {d : Int} : d ∣ gcd a b ↔ d ∣ a ∧ d ∣ b := by
  simpa using (rounds_gcd a b).common_dvd_iff d

theorem gcd_dvd (a b : Int) : gcd a b ∣ a ∧ gcd a b ∣ b :=
  dvd_gcd_iff.1 (Int.dvd_refl _)

theorem gcd_nonneg (dividend : 0 ≤ a) (divisor : 0 ≤ b) : 0 ≤ gcd a b :=
  ((rounds_gcd a b).nonneg ⟨dividend, divisor⟩).1

theorem gcd_greatest (a b : Int) :
    RoundsEnd (a, b) ∧ (∀ g, Rounds (a, b) (g, 0) ↔ g = gcd a b) ∧
      (gcd a b ∣ a ∧ gcd a b ∣ b) ∧ (∀ d, d ∣ a → d ∣ b → d ∣ gcd a b) ∧
      (gcd a b).natAbs = Nat.gcd a.natAbs b.natAbs ∧
      (gcd a b = 0 ↔ a = 0 ∧ b = 0) ∧
      (0 ≤ a → 0 ≤ b → 0 ≤ gcd a b) := by
  have greatest : ∀ d, d ∣ a → d ∣ b → d ∣ gcd a b := by
    intro d first second
    exact dvd_gcd_iff.2 ⟨first, second⟩
  exact ⟨roundsEnd _, rounds_zero_iff a b, gcd_dvd a b, greatest, natAbs_gcd a b, gcd_eq_zero_iff,
    gcd_nonneg⟩

end Rounds

end FunctionCalculator.Integer
