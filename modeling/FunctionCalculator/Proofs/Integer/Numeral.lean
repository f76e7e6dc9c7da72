import FunctionCalculator.Proofs.Integer.Reversal
import FunctionCalculator.Value
/-!
Integers as texts. Many texts stand for one integer, with a sign or without, with zeros before the
other digits and in the digits of any script; the canonical one among them is written. Reading
undoes writing, and both stop at 4300 digits.
-/

set_option autoImplicit false

namespace FunctionCalculator

namespace Text

theorem map_digitValue_iff {text : Text} {values : List Nat} :
    text.map digitValue? = values.map some ↔
      text.all isDigit = true ∧ digitValues text = values := by
  induction text generalizing values with
  | nil => cases values <;> simp [digitValues]
  | cons c rest ih =>
    cases found : digitValue? c with
    | none =>
      have other : isDigit c = false := by rw [isDigit, found, Option.isSome_none]
      cases values <;> simp [found, other]
    | some d =>
      have digit : isDigit c = true := by rw [isDigit, found, Option.isSome_some]
      cases values with
      | nil => simp [digitValues, found]
      | cons e values =>
        have heads : digitValues (c :: rest) = d :: digitValues rest := by
          rw [digitValues, List.filterMap_cons_some found, digitValues]
        simp [found, digit, heads, ih, and_left_comm]

theorem map_digitChar {values : List Nat} (small : ∀ d ∈ values, d < 10) :
    (values.map Nat.digitChar).map digitValue? = values.map some := by
  rw [List.map_map]
  exact List.map_congr_left fun d member => digitValue_digitChar (small d member)

theorem exists_digitChar {c : Char} (ascii : c.isDigit = true) : ∃ d < 10, d.digitChar = c := by
  have codes : ∀ d < 10, d.digitChar.toNat = d + 48 := by decide
  simp only [Char.isDigit, Bool.and_eq_true, decide_eq_true_eq, UInt32.le_iff_toNat_le] at ascii
  have range : 48 ≤ c.toNat ∧ c.toNat ≤ 57 := ascii
  refine ⟨c.toNat - 48, by omega, Char.toNat_inj.1 ?_⟩
  rw [codes _ (by omega)]
  omega

theorem exists_map_digitChar {text : Text} (ascii : ∀ c ∈ text, c.isDigit = true) :
    ∃ values : List Nat, (∀ d ∈ values, d < 10) ∧ values.map Nat.digitChar = text := by
  induction text with
  | nil => exact ⟨[], nofun, rfl⟩
  | cons c rest ih =>
    obtain ⟨first, others⟩ := List.forall_mem_cons.1 ascii
    obtain ⟨d, small, rfl⟩ := exists_digitChar first
    obtain ⟨values, smaller, rfl⟩ := ih others
    exact ⟨d :: values, List.forall_mem_cons.2 ⟨small, smaller⟩, rfl⟩

end Text

namespace Integer

/-- From one to 4300 decimal digits, the highest first, and the number that they stand for by their
places. -/
structure Numeral (digits : Text) (n : Nat) : Prop where
  nonempty : digits ≠ []
  short : digits.length ≤ 4300
  places : ∃ values : List Nat, digits.map Text.digitValue? = values.map some ∧
    n = Nat.ofDigits 10 values.reverse

inductive Literal : Text → Int → Prop
  | plain {digits : Text} {n : Nat} (numeral : Numeral digits n) : Literal digits n
  | plus {digits : Text} {n : Nat} (numeral : Numeral digits n) : Literal ('+' :: digits) n
  | minus {digits : Text} {n : Nat} (numeral : Numeral digits n) : Literal ('-' :: digits) (-n)

structure Leading (digits : Text) : Prop where
  nonempty : digits ≠ []
  first : digits.head? ≠ some '0'
  ascii : ∀ c ∈ digits, c.isDigit = true

/-- Decimal text without a plus, without zeros before other digits and without a minus before zero.
-/
inductive Canonical : Text → Prop
  | zero : Canonical ['0']
  | plain {digits : Text} (leading : Leading digits) : Canonical digits
  | minus {digits : Text} (leading : Leading digits) : Canonical ('-' :: digits)

section Reading

variable {text digits : Text}

theorem numeral_iff {n : Nat} :
    Numeral digits n ↔
      (digits ≠ [] ∧ digits.all Text.isDigit = true ∧ digits.length ≤ maxDigits) ∧
        Text.ofDigitValues (Text.digitValues digits) = n := by
  constructor
  · rintro ⟨nonempty, short, values, found, rfl⟩
    obtain ⟨all, rfl⟩ := Text.map_digitValue_iff.1 found
    exact ⟨⟨nonempty, all, short⟩, Text.ofDigitValues_eq _⟩
  · rintro ⟨⟨nonempty, all, short⟩, rfl⟩
    exact ⟨nonempty, short, _, Text.map_digitValue_iff.2 ⟨all, rfl⟩, Text.ofDigitValues_eq _⟩

theorem splitSign_of_digits (all : digits.all Text.isDigit = true) :
    splitSign digits = (false, digits) := by
  unfold splitSign
  split
  · exact absurd (List.all_eq_true.1 all '+' List.mem_cons_self) (by decide +kernel)
  · exact absurd (List.all_eq_true.1 all '-' List.mem_cons_self) (by decide +kernel)
  · rfl

theorem literal_iff {n : Int} :
    Literal text n ↔ ∃ m, Numeral (splitSign text).2 m ∧ signed (splitSign text).1 m = n := by
  constructor
  · intro literal
    cases literal with
    | plain numeral =>
      rw [splitSign_of_digits (numeral_iff.1 numeral).1.2.1]
      exact ⟨_, numeral, rfl⟩
    | plus numeral => exact ⟨_, numeral, rfl⟩
    | minus numeral => exact ⟨_, numeral, rfl⟩
  · unfold splitSign
    split
    · rintro ⟨m, numeral, rfl⟩
      exact .plus numeral
    · rintro ⟨m, numeral, rfl⟩
      exact .minus numeral
    · rintro ⟨m, numeral, rfl⟩
      exact .plain numeral

theorem read_eq_some_iff {n : Int} : read? text = some n ↔ Literal text n := by
  simp only [literal_iff, numeral_iff, read?]
  split
  · next accepted =>
    constructor
    · intro same
      exact ⟨_, ⟨accepted, rfl⟩, Option.some.inj same⟩
    · rintro ⟨m, ⟨-, rfl⟩, rfl⟩
      rfl
  · next refused =>
    refine iff_of_false nofun ?_
    rintro ⟨m, ⟨accepted, -⟩, -⟩
    exact refused accepted

end Reading

section Writing

theorem naturalText_eq (m : Nat) :
    ∃ values : List Nat,
      naturalText m = values.map Nat.digitChar ∧ (∀ d ∈ values, d < 10) ∧ values ≠ [] ∧
      Nat.ofDigits 10 values.reverse = m := by
  by_cases zero : m = 0
  · subst zero
    exact ⟨[0], rfl, by simp, by simp, by simp⟩
  · refine ⟨(digits m).reverse, if_neg zero, ?_, ?_, ?_⟩
    · exact fun d member => lt_of_mem_digits (List.mem_reverse.1 member)
    · exact mt List.reverse_eq_nil_iff.1 (digits_ne_nil zero)
    · rw [List.reverse_reverse, digits_eq, Nat.ofDigits_digits]

theorem ofDigitValues_naturalText (m : Nat) :
    Text.ofDigitValues (Text.digitValues (naturalText m)) = m := by
  obtain ⟨values, shown, small, -, number⟩ := naturalText_eq m
  rw [shown, Text.digitValues_map_digitChar small, Text.ofDigitValues_eq, number]

theorem naturalText_injective : Function.Injective naturalText := by
  intro m n same
  rw [← ofDigitValues_naturalText m, same, ofDigitValues_naturalText]

theorem numeral_naturalText {n : Int} (fits : size n ≤ maxDigits) :
    Numeral (naturalText n.natAbs) n.natAbs := by
  have short := length_naturalText_le_iff.2 fits
  obtain ⟨values, shown, small, nonempty, value⟩ := naturalText_eq n.natAbs
  refine ⟨?_, short, values, ?_, value.symm⟩
  · rw [shown]
    exact mt List.map_eq_nil_iff.1 nonempty
  · rw [shown, Text.map_digitChar small]

theorem literal_text {n : Int} (fits : size n ≤ maxDigits) : Literal (text n) n := by
  have numeral := numeral_naturalText fits
  unfold text
  split
  · next negative =>
    have value : n = -(n.natAbs : Int) := by omega
    rw [value, Int.natAbs_neg, Int.natAbs_natCast]
    exact .minus numeral
  · next positive =>
    have value : n = n.natAbs := by omega
    rw [value, Int.natAbs_natCast]
    exact .plain numeral

theorem text_injective {m n : Int} (short : size m ≤ maxDigits) (fits : size n ≤ maxDigits)
    (same : text m = text n) : m = n := by
  have first := read_eq_some_iff.2 (literal_text short)
  have second := read_eq_some_iff.2 (literal_text fits)
  rw [same] at first
  exact Option.some.inj (first.symm.trans second)

theorem leading_naturalText {m : Nat} (nonzero : m ≠ 0) : Leading (naturalText m) := by
  obtain ⟨values, d, split, top⟩ := exists_digits_eq_append nonzero
  have small : ∀ e ∈ digits m, e < 10 := fun e member => lt_of_mem_digits member
  have shown : naturalText m = d.digitChar :: values.reverse.map Nat.digitChar := by
    rw [naturalText, if_neg nonzero, split, List.reverse_append, List.reverse_singleton,
      List.singleton_append, List.map_cons]
  have lead : ∀ d < 10, d ≠ 0 → d.digitChar ≠ '0' := by decide
  have ascii : ∀ d < 10, d.digitChar.isDigit = true := by decide
  refine ⟨by simp [shown], ?_, ?_⟩
  · rw [shown, List.head?_cons, Ne, Option.some.injEq]
    exact lead d (small d (by simp [split])) top
  · rw [naturalText, if_neg nonzero, List.forall_mem_map]
    exact fun d member => ascii d (small d (List.mem_reverse.1 member))

theorem canonical_text (n : Int) : Canonical (text n) := by
  by_cases zero : n = 0
  · rw [zero]
    exact .zero
  · have leading := leading_naturalText (mt Int.natAbs_eq_zero.1 zero)
    unfold text
    split
    · exact .minus leading
    · exact .plain leading

theorem naturalText_of_leading {digits : Text} {m : Nat} (leading : Leading digits)
    (numeral : Numeral digits m) : m ≠ 0 ∧ naturalText m = digits := by
  obtain ⟨values, small, rfl⟩ := Text.exists_map_digitChar leading.ascii
  have value : m = Nat.ofDigits 10 values.reverse := by
    rw [← (numeral_iff.1 numeral).2, Text.digitValues_map_digitChar small, Text.ofDigitValues_eq]
  have nonempty : values ≠ [] := mt List.map_eq_nil_iff.2 leading.nonempty
  have places : Integer.digits m = values.reverse := by
    rw [digits_eq, value]
    refine Nat.digits_ofDigits 10 (by decide) _ (by simpa using small) fun _ last => ?_
    rw [List.getLast_reverse] at last
    refine leading.first ?_
    rw [List.head?_map, List.head?_eq_some_head nonempty, last]
    rfl
  have nonzero : m ≠ 0 := by
    rintro rfl
    rw [Integer.digits, if_pos rfl] at places
    exact nonempty (List.reverse_eq_nil_iff.1 places.symm)
  exact ⟨nonzero, by rw [naturalText, if_neg nonzero, places, List.reverse_reverse]⟩

theorem Leading.isDigit {digits : Text} (leading : Leading digits) :
    digits.all Text.isDigit = true := by
  obtain ⟨values, small, rfl⟩ := Text.exists_map_digitChar leading.ascii
  exact (Text.map_digitValue_iff.1 (Text.map_digitChar small)).1

theorem text_of_canonical {shown : Text} {n : Int} (canonical : Canonical shown)
    (literal : Literal shown n) : text n = shown := by
  cases canonical with
  | zero =>
    have read : read? ['0'] = some 0 := by decide +kernel
    rw [← read_eq_some_iff, read] at literal
    obtain rfl := Option.some.inj literal
    rfl
  | plain leading =>
    obtain ⟨m, numeral, rfl⟩ := literal_iff.1 literal
    rw [splitSign_of_digits leading.isDigit] at numeral ⊢
    exact (text_natCast m).trans (naturalText_of_leading leading numeral).2
  | minus leading =>
    obtain ⟨m, numeral, rfl⟩ := literal_iff.1 literal
    obtain ⟨nonzero, same⟩ := naturalText_of_leading leading numeral
    exact (text_neg nonzero).trans (congrArg _ same)

theorem written_eq_ok_iff {shown : Text} {n : Int} :
    written n = .ok shown ↔ Canonical shown ∧ Literal shown n := by
  constructor
  · intro wrote
    by_cases fits : size n ≤ maxDigits
    · obtain rfl := Except.ok.inj ((written_of_size fits).symm.trans wrote)
      exact ⟨canonical_text n, literal_text fits⟩
    · cases (written_of_lt_size (Nat.not_le.1 fits)).symm.trans wrote
  · rintro ⟨canonical, literal⟩
    rw [written_of_size (size_of_read (read_eq_some_iff.2 literal)),
      text_of_canonical canonical literal]

theorem shown_literal {text : Text} {n : Int} (literal : Literal text n) :
    ∃ shown, written n = .ok shown ∧ Canonical shown ∧ Literal shown n := by
  have wrote := written_of_size (size_of_read (read_eq_some_iff.2 literal))
  exact ⟨_, wrote, written_eq_ok_iff.1 wrote⟩

end Writing

section Inverse

theorem read_ok_iff {text : Text} {n : Int} :
    Reading.integer.read text = .ok n ↔ Literal text n := by
  rw [← read_eq_some_iff]
  simp only [Reading.read, Reading.read?]
  cases read? text <;> simp

theorem read_of_no_literal {text : Text} (unwritten : ∀ n, ¬ Literal text n) :
    Reading.integer.read text = .error (.invalidNumber text) := by
  cases read : read? text with
  | some n => exact absurd (read_eq_some_iff.1 read) (unwritten n)
  | none => simp only [Reading.read, Reading.read?, read]

/-- Reading and writing integers undo each other up to canonical form, with one limit for both. The
text that is written for an integer is the canonical one among those that are read as it. -/
theorem read_shown_inverse :
    (∀ n : Int,
      (size n ≤ 4300 →
        ∃ text, (Value.int n).shown = .ok text ∧ Reading.integer.read text = .ok n) ∧
      (4300 < size n → (Value.int n).shown = .error .tooManyDigits) ∧
      ∀ text, (Value.int n).shown = .ok text ↔ Canonical text ∧ Literal text n) ∧
    ∀ text : Text,
      (∀ n : Int, Reading.integer.read text = .ok n ↔ Literal text n) ∧
      (∀ n : Int, Literal text n →
        ∃ shown, (Value.int n).shown = .ok shown ∧ Canonical shown ∧ Literal shown n) ∧
      ((∀ n, ¬ Literal text n) → Reading.integer.read text = .error (.invalidNumber text)) := by
  refine ⟨fun n => ⟨fun fits => ?_, written_of_lt_size, fun text => written_eq_ok_iff⟩,
    fun text => ⟨fun n => read_ok_iff, fun n => shown_literal, read_of_no_literal⟩⟩
  exact ⟨text n, written_of_size fits, read_ok_iff.2 (literal_text fits)⟩

theorem read_shown_inverse_signs :
    (size (-120) ≤ 4300 ∧
      ∃ text, (Value.int (-120)).shown = .ok text ∧ Reading.integer.read text = .ok (-120)) ∧
    (4300 < size (10 ^ 4300 : Nat) ∧
      (Value.int (10 ^ 4300 : Nat)).shown = .error .tooManyDigits) ∧
    (Literal "-00\u0664" (-4) ∧
      ∃ shown, (Value.int (-4)).shown = .ok shown ∧ Canonical shown ∧ Literal shown (-4)) ∧
    ((∀ n, ¬ Literal "+-1" n) ∧
      Reading.integer.read "+-1" = .error (.invalidNumber "+-1")) := by
  have fits : size (-120) ≤ 4300 := by decide +kernel
  have long : 4300 < size (10 ^ 4300 : Nat) := by
    rw [← Nat.not_le, size_le_iff, Int.natAbs_natCast]
    exact Nat.lt_irrefl _
  have literal : Literal "-00\u0664" (-4) := read_eq_some_iff.1 (by decide +kernel)
  have unread : read? "+-1" = none := by decide +kernel
  have unwritten (n : Int) : ¬ Literal "+-1" n := by
    rw [← read_eq_some_iff, unread]
    nofun
  exact ⟨⟨fits, (read_shown_inverse.1 _).1 fits⟩, ⟨long, (read_shown_inverse.1 _).2.1 long⟩,
    ⟨literal, (read_shown_inverse.2 _).2.1 _ literal⟩, unwritten,
      (read_shown_inverse.2 _).2.2 unwritten⟩

end Inverse

end Integer
end FunctionCalculator
