import FunctionCalculator.Evaluation
import Mathlib.Data.List.Forall2
/-!
Reading the arguments of a builtin: the leftmost one that is not accepted is told, and otherwise
the function is applied to all the values that were read.
-/

set_option autoImplicit false

namespace FunctionCalculator

namespace Evaluation

def unread? (readings : List Reading) (arguments : List Text) : Option Text :=
  ((readings.zip arguments).find? fun (reading, argument) => (reading.read? argument).isNone).map
    Prod.snd

def valuesOf (readings : List Reading) (arguments : List Text) : List Value :=
  (readings.zip arguments).filterMap fun (reading, argument) =>
    (reading.read? argument).map reading.value

theorem unread_cons (reading : Reading) (readings : List Reading) (argument : Text)
    (arguments : List Text) :
    unread? (reading :: readings) (argument :: arguments) =
      if (reading.read? argument).isNone then some argument else unread? readings arguments := by
  cases found : reading.read? argument <;> simp [unread?, found]

theorem valuesOf_cons {reading : Reading} {argument : Text} {value : reading.Carrier}
    (accepted : reading.read? argument = some value) (readings : List Reading)
    (arguments : List Text) :
    valuesOf (reading :: readings) (argument :: arguments) =
      reading.value value :: valuesOf readings arguments := by
  simp [valuesOf, accepted]

theorem ofValue_value (reading : Reading) (value : reading.Carrier) :
    reading.ofValue? (reading.value value) = some value := by
  cases reading <;> rfl

theorem onTexts_of_unread (readings : List Reading) (function : Meaning readings)
    (arguments : List Text) {argument : Text}
    (unread : unread? readings arguments = some argument) :
    Meaning.onTexts readings function arguments = .error (.invalidNumber argument) := by
  induction readings generalizing arguments with
  | nil => simp [unread?] at unread
  | cons reading readings ih =>
    cases arguments with
    | nil => simp [unread?] at unread
    | cons first arguments =>
      rw [unread_cons] at unread
      cases found : reading.read? first with
      | none =>
        obtain rfl : first = argument := by simpa [found] using unread
        simp [Meaning.onTexts, Reading.read, found]
      | some value =>
        have later : unread? readings arguments = some argument := by simpa [found] using unread
        simpa [Meaning.onTexts, Reading.read, found] using ih (function value) arguments later

theorem onTexts_of_read (readings : List Reading) (function : Meaning readings)
    (arguments : List Text) (enough : readings.length ≤ arguments.length)
    (accepted : unread? readings arguments = none) :
    Meaning.onValues? readings function (valuesOf readings arguments) =
      some (Meaning.onTexts readings function arguments) := by
  induction readings generalizing arguments with
  | nil => simp [Meaning.onValues?, Meaning.onTexts]
  | cons reading readings ih =>
    cases arguments with
    | nil => simp at enough
    | cons first arguments =>
      rw [unread_cons] at accepted
      cases found : reading.read? first with
      | none => simp [found] at accepted
      | some value =>
        have later : unread? readings arguments = none := by simpa [found] using accepted
        rw [valuesOf_cons found]
        simpa [Meaning.onValues?, Meaning.onTexts, Reading.read, found, ofValue_value] using
          ih (function value) arguments (by simpa using enough) later

theorem onTexts_one (reading : Reading) (function : Meaning [reading]) {argument : Text}
    {value : reading.Carrier} (accepted : reading.read? argument = some value) :
    Meaning.onTexts [reading] function [argument] = function value := by
  simp [Meaning.onTexts, Reading.read, accepted]

def Fits (readings : List Reading) (values : List Value) : Prop :=
  List.Forall₂ (fun reading value => ∃ carried, value = Reading.value reading carried)
    readings values

theorem valuesOf_fits (readings : List Reading) (arguments : List Text)
    (enough : readings.length ≤ arguments.length) (accepted : unread? readings arguments = none) :
    Fits readings (valuesOf readings arguments) := by
  induction readings generalizing arguments with
  | nil => exact .nil
  | cons reading readings ih =>
    cases arguments with
    | nil => simp at enough
    | cons first arguments =>
      rw [unread_cons] at accepted
      cases found : reading.read? first with
      | none => simp [found] at accepted
      | some value =>
        rw [valuesOf_cons found]
        refine .cons ⟨value, rfl⟩ (ih arguments (by simpa using enough) ?_)
        simpa [found] using accepted

theorem mem_valuesOf {readings : List Reading} {arguments : List Text} {value : Value}
    (member : value ∈ valuesOf readings arguments) :
    ∃ (reading : Reading) (argument : Text) (carried : reading.Carrier),
      reading.read? argument = some carried ∧ value = reading.value carried := by
  obtain ⟨⟨reading, argument⟩, _, read⟩ := List.mem_filterMap.1 member
  obtain ⟨carried, accepted, rfl⟩ := Option.map_eq_some_iff.1 read
  exact ⟨reading, argument, carried, accepted, rfl⟩

section Shapes

variable {r s t : Reading} {values : List Value}

theorem Fits.one (fits : Fits [r] values) : ∃ a, values = [r.value a] := by
  obtain ⟨_, _, ⟨a, rfl⟩, rest, rfl⟩ := List.forall₂_cons_left_iff.1 fits
  obtain rfl := List.forall₂_nil_left_iff.1 rest
  exact ⟨a, rfl⟩

theorem Fits.two (fits : Fits [r, s] values) :
    ∃ a b, values = [r.value a, s.value b] := by
  obtain ⟨_, _, ⟨a, rfl⟩, rest, rfl⟩ := List.forall₂_cons_left_iff.1 fits
  obtain ⟨b, rfl⟩ := Fits.one rest
  exact ⟨a, b, rfl⟩

theorem Fits.three (fits : Fits [r, s, t] values) :
    ∃ a b c, values = [r.value a, s.value b, t.value c] := by
  obtain ⟨_, _, ⟨a, rfl⟩, rest, rfl⟩ := List.forall₂_cons_left_iff.1 fits
  obtain ⟨b, c, rfl⟩ := Fits.two rest
  exact ⟨a, b, c, rfl⟩

end Shapes
end Evaluation
end FunctionCalculator
