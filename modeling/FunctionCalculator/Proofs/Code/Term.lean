import FunctionCalculator.Code.Term
import Mathlib.Data.List.Forall2
/-!
Replacing the arguments of a term fails only as the replacement of one of them does, and is done
when all of them can be replaced. It changes nothing else of the term.
-/

set_option autoImplicit false

namespace FunctionCalculator.Code

section Bind

variable {ε α β : Type} {first : Except ε α} {next : α → Except ε β}

theorem bind_ok {result : β} (done : first >>= next = .ok result) :
    ∃ value, first = .ok value ∧ next value = .ok result := by
  cases first with
  | error => cases done
  | ok value => exact ⟨value, rfl, done⟩

theorem bind_error {error : ε} (failed : first >>= next = .error error) :
    first = .error error ∨ ∃ value, first = .ok value ∧ next value = .error error := by
  cases first with
  | error =>
    cases failed
    exact .inl rfl
  | ok value => exact .inr ⟨value, rfl, failed⟩

theorem bind_pure_error {f : α → β} {error : ε}
    (failed : (first >>= fun value => pure (f value)) = .error error) : first = .error error := by
  rcases bind_error failed with failed | ⟨_, _, failed⟩
  · exact failed
  · cases failed

end Bind

namespace Term

def arguments {α : Type} : Term α → List α
  | .argument value => [value]
  | .temporary _ | .number _ | .pi => []
  | .group inner | .apply _ inner => inner.arguments
  | .binary _ left right | .apply₂ _ left right => left.arguments ++ right.arguments
  | .choose condition yes no => condition.arguments ++ (yes.arguments ++ no.arguments)

theorem replace_error {α β ε : Type} {f : α → Except ε β} {error : ε} {P : Prop} (term : Term α)
    (each : ∀ value ∈ term.arguments, f value = .error error → P)
    (failed : term.replace f = .error error) : P := by
  induction term with
  | argument value => exact each value (List.mem_singleton_self value) (bind_pure_error failed)
  | temporary => cases failed
  | number => cases failed
  | pi => cases failed
  | group inner ih => exact ih each (bind_pure_error failed)
  | apply primitive inner ih => exact ih each (bind_pure_error failed)
  | binary operator left right leftIH rightIH =>
    obtain ⟨eachLeft, eachRight⟩ := List.forall_mem_append.1 each
    rcases bind_error failed with failed | ⟨_, _, failed⟩
    · exact leftIH eachLeft failed
    · exact rightIH eachRight (bind_pure_error failed)
  | apply₂ primitive left right leftIH rightIH =>
    obtain ⟨eachLeft, eachRight⟩ := List.forall_mem_append.1 each
    rcases bind_error failed with failed | ⟨_, _, failed⟩
    · exact leftIH eachLeft failed
    · exact rightIH eachRight (bind_pure_error failed)
  | choose condition yes no conditionIH yesIH noIH =>
    obtain ⟨eachCondition, eachOther⟩ := List.forall_mem_append.1 each
    obtain ⟨eachYes, eachNo⟩ := List.forall_mem_append.1 eachOther
    rcases bind_error failed with failed | ⟨_, _, failed⟩
    · exact conditionIH eachCondition failed
    · rcases bind_error failed with failed | ⟨_, _, failed⟩
      · exact yesIH eachYes failed
      · exact noIH eachNo (bind_pure_error failed)

theorem replace_ok {α β ε : Type} {f : α → Except ε β} (term : Term α)
    (each : ∀ value ∈ term.arguments, ∃ new, f value = .ok new) :
    ∃ replaced, term.replace f = .ok replaced := by
  cases found : term.replace f with
  | ok replaced => exact ⟨replaced, rfl⟩
  | error error =>
    refine term.replace_error (fun value member failed => ?_) found
    obtain ⟨new, done⟩ := each value member
    cases failed.symm.trans done

def temporaries {α : Type} : Term α → List Nat
  | .temporary index => [index]
  | .argument _ | .number _ | .pi => []
  | .group inner | .apply _ inner => inner.temporaries
  | .binary _ left right | .apply₂ _ left right => left.temporaries ++ right.temporaries
  | .choose condition yes no => condition.temporaries ++ (yes.temporaries ++ no.temporaries)

def Replaced {α β ε : Type} (f : α → Except ε β) (term : Term α) (new : Term β) : Prop :=
  List.Forall₂ (fun value other => f value = .ok other) term.arguments new.arguments ∧
    new.temporaries = term.temporaries

theorem replaced_of_replace {α β ε : Type} {f : α → Except ε β} {term : Term α} {new : Term β}
    (done : term.replace f = .ok new) : Replaced f term new := by
  have both {left right : Term α} {newLeft newRight : Term β}
      (first : Replaced f left newLeft) (second : Replaced f right newRight) :
      List.Forall₂ (fun value other => f value = .ok other) (left.arguments ++ right.arguments)
        (newLeft.arguments ++ newRight.arguments) ∧
      newLeft.temporaries ++ newRight.temporaries = left.temporaries ++ right.temporaries :=
    ⟨List.rel_append first.1 second.1, by rw [first.2, second.2]⟩
  induction term generalizing new with
  | argument value =>
    obtain ⟨other, found, done⟩ := bind_ok done
    obtain rfl := Except.ok.inj done
    exact ⟨.cons found .nil, rfl⟩
  | temporary index =>
    obtain rfl := Except.ok.inj done
    exact ⟨.nil, rfl⟩
  | number n =>
    obtain rfl := Except.ok.inj done
    exact ⟨.nil, rfl⟩
  | pi =>
    obtain rfl := Except.ok.inj done
    exact ⟨.nil, rfl⟩
  | group inner ih =>
    obtain ⟨newInner, innerDone, done⟩ := bind_ok done
    obtain rfl := Except.ok.inj done
    obtain ⟨others, kept⟩ := ih innerDone
    exact ⟨others, kept⟩
  | apply primitive inner ih =>
    obtain ⟨newInner, innerDone, done⟩ := bind_ok done
    obtain rfl := Except.ok.inj done
    obtain ⟨others, kept⟩ := ih innerDone
    exact ⟨others, kept⟩
  | binary operator left right leftIH rightIH =>
    obtain ⟨newLeft, leftDone, done⟩ := bind_ok done
    obtain ⟨newRight, rightDone, done⟩ := bind_ok done
    obtain rfl := Except.ok.inj done
    exact both (leftIH leftDone) (rightIH rightDone)
  | apply₂ primitive left right leftIH rightIH =>
    obtain ⟨newLeft, leftDone, done⟩ := bind_ok done
    obtain ⟨newRight, rightDone, done⟩ := bind_ok done
    obtain rfl := Except.ok.inj done
    exact both (leftIH leftDone) (rightIH rightDone)
  | choose condition yes no conditionIH yesIH noIH =>
    obtain ⟨newCondition, conditionDone, done⟩ := bind_ok done
    obtain ⟨newYes, yesDone, done⟩ := bind_ok done
    obtain ⟨newNo, noDone, done⟩ := bind_ok done
    obtain rfl := Except.ok.inj done
    obtain ⟨others, later⟩ := both (yesIH yesDone) (noIH noDone)
    obtain ⟨first, earlier⟩ := conditionIH conditionDone
    refine ⟨List.rel_append first others, ?_⟩
    simp only [temporaries, earlier, later]

end Term
end FunctionCalculator.Code
