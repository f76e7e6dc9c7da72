import FunctionCalculator.Code.Listing
import FunctionCalculator.Proofs.Code.Term
import FunctionCalculator.Value
import Mathlib.Algebra.Order.Group.Unbundled.Int
import Mathlib.Logic.Function.Basic
/-!
Executing a listing over integers. Each instruction computes its right-hand side from the
temporaries and keeps the value in its destination. The run of a listing is followed on the
template that it was made from, where the arguments are values and no longer texts.
-/

set_option autoImplicit false

namespace FunctionCalculator.Code

inductive Stop
  | zeroRemainder
  -- A term without a meaning in integers, or a temporary that holds nothing.
  | meaningless
  deriving DecidableEq, Repr

abbrev Environment := Destination → Option Value

section Meaning

def known : Option Value → Except Stop Value
  | some value => .ok value
  | none => .error .meaningless

theorem known_eq_ok {found : Option Value} {value : Value} :
    known found = .ok value ↔ found = some value := by
  cases found <;> simp [known]

def integer : Value → Except Stop Int
  | .int n => .ok n
  | _ => .error .meaningless

def condition : Value → Except Stop Bool
  | .bool b => .ok b
  | _ => .error .meaningless

-- The remainder has the sign of the dividend.
def Operator.apply : Operator → Int → Int → Except Stop Value
  | .plus, a, b => .ok (.int (a + b))
  | .minus, a, b => .ok (.int (a - b))
  | .times, a, b => .ok (.int (a * b))
  | .modulo, a, b => if b = 0 then .error .zeroRemainder else .ok (.int (a.tmod b))
  | .equal, a, b => .ok (.bool (a = b))
  | .unequal, a, b => .ok (.bool (a ≠ b))
  | .less, a, b => .ok (.bool (a < b))
  | .greater, a, b => .ok (.bool (a > b))
  | .over, _, _ => .error .meaningless

def Primitive.apply : Primitive → Int → Except Stop Value
  | .abs, a => .ok (.int |a|)
  | _, _ => .error .meaningless

def Primitive.apply₂ : Primitive → Int → Int → Except Stop Value
  | .max, a, b => .ok (.int (Max.max a b))
  | .min, a, b => .ok (.int (Min.min a b))
  | _, _, _ => .error .meaningless

def held (environment : Environment) (destination : Destination) : Except Stop Value :=
  known (environment destination)

def Term.value {α : Type} (read : α → Except Stop Value) (environment : Environment) :
    Term α → Except Stop Value
  | .argument leaf => read leaf
  | .temporary index => held environment (.temporary index)
  | .number n => .ok (.int n)
  | .pi => .error .meaningless
  | .binary operator left right => do
    let a ← integer (← left.value read environment)
    let b ← integer (← right.value read environment)
    operator.apply a b
  | .group inner => inner.value read environment
  | .apply primitive inner => do
    primitive.apply (← integer (← inner.value read environment))
  | .apply₂ primitive first second => do
    let a ← integer (← first.value read environment)
    let b ← integer (← second.value read environment)
    primitive.apply₂ a b
  | .choose test yes no => do
    if ← condition (← test.value read environment) then yes.value read environment
    else no.value read environment

def literal (text : Text) : Except Stop Value :=
  known ((Integer.read? text).map .int)

def Instruction.execute (environment : Environment) (instruction : Instruction) :
    Except Stop Environment := do
  let value ← instruction.term.value literal environment
  return Function.update environment instruction.destination (some value)

def execute (code : List Instruction) : Except Stop Environment :=
  code.foldlM Instruction.execute fun _ => none

end Meaning

section Run

def holding (temporaries : List Value) : Environment
  | .temporary (index + 1) => temporaries[index]?
  | _ => none

def argumentValue (values : List Value) (index : Nat) : Except Stop Value :=
  known values[index]?

def computed (values temporaries : List Value) : List (Term Nat) → Except Stop (List Value)
  | [] => .ok temporaries
  | term :: rest => do
    let value ← term.value (argumentValue values) (holding temporaries)
    computed values (temporaries ++ [value]) rest

def last (values : List Value) : Except Stop Value :=
  known values.getLast?

def outcome (values : List Value) (terms : List (Term Nat)) : Except Stop Value :=
  computed values [] terms >>= last

theorem value_replace {α β : Type} {f : α → Except Refusal β} {read : β → Except Stop Value}
    {source : α → Except Stop Value} (same : ∀ a b, f a = .ok b → read b = source a)
    {environment : Environment} {term : Term α} {replaced : Term β}
    (done : term.replace f = .ok replaced) :
    replaced.value read environment = term.value source environment := by
  induction term generalizing replaced with
  | argument value =>
    obtain ⟨text, found, done⟩ := bind_ok done
    obtain rfl := Except.ok.inj done
    exact same value text found
  | temporary index =>
    obtain rfl := Except.ok.inj done
    rfl
  | number n =>
    obtain rfl := Except.ok.inj done
    rfl
  | pi =>
    obtain rfl := Except.ok.inj done
    rfl
  | binary operator left right leftSame rightSame =>
    obtain ⟨newLeft, leftDone, done⟩ := bind_ok done
    obtain ⟨newRight, rightDone, done⟩ := bind_ok done
    obtain rfl := Except.ok.inj done
    simp only [Term.value, leftSame leftDone, rightSame rightDone]
  | group inner innerSame =>
    obtain ⟨newInner, innerDone, done⟩ := bind_ok done
    obtain rfl := Except.ok.inj done
    simp only [Term.value, innerSame innerDone]
  | apply primitive inner innerSame =>
    obtain ⟨newInner, innerDone, done⟩ := bind_ok done
    obtain rfl := Except.ok.inj done
    simp only [Term.value, innerSame innerDone]
  | apply₂ primitive first second firstSame secondSame =>
    obtain ⟨newFirst, firstDone, done⟩ := bind_ok done
    obtain ⟨newSecond, secondDone, done⟩ := bind_ok done
    obtain rfl := Except.ok.inj done
    simp only [Term.value, firstSame firstDone, secondSame secondDone]
  | choose test yes no testSame yesSame noSame =>
    obtain ⟨newTest, testDone, done⟩ := bind_ok done
    obtain ⟨newYes, yesDone, done⟩ := bind_ok done
    obtain ⟨newNo, noDone, done⟩ := bind_ok done
    obtain rfl := Except.ok.inj done
    simp only [Term.value, testSame testDone, yesSame yesDone, noSame noDone]

theorem update_holding (temporaries : List Value) (value : Value) :
    Function.update (holding temporaries) (.temporary (temporaries.length + 1)) (some value) =
      holding (temporaries ++ [value]) := by
  funext destination
  by_cases same : destination = .temporary (temporaries.length + 1)
  · subst same
    simp [holding]
  · rw [Function.update_of_ne same]
    match destination with
    | .result | .temporary 0 => rfl
    | .temporary (index + 1) =>
      have other : index ≠ temporaries.length := by simpa using same
      simp only [holding]
      rw [List.getElem?_append]
      grind

theorem held_last (temporaries : List Value) :
    held (holding temporaries) (.temporary temporaries.length) = last temporaries := by
  rw [last, List.getLast?_eq_getElem?]
  cases temporaries <;> rfl

-- The induction is on the terms that are still to run; the invariant is that the environment holds
-- the values of the terms before them and nothing else.
theorem fold_assign {values : List Value} {arguments : List Text}
    (same : ∀ index text, argument arguments index = .ok text →
      literal text = argumentValue values index)
    {temporaries : List Value} {terms : List (Term Nat)} {code : List Instruction}
    (assigned : assign arguments (temporaries.length + 1) terms = .ok code) :
    code.foldlM Instruction.execute (holding temporaries) = do
      let all ← computed values temporaries terms
      let value ← last all
      return Function.update (holding all) .result (some value) := by
  induction terms generalizing temporaries code with
  | nil =>
    obtain rfl := Except.ok.inj assigned
    simp only [List.foldlM_cons, List.foldlM_nil, Instruction.execute, Term.value,
      Nat.add_sub_cancel, held_last, bind_pure]
    rfl
  | cons term rest ih =>
    obtain ⟨first, replaced, assigned⟩ := bind_ok assigned
    obtain ⟨others, later, assigned⟩ := bind_ok assigned
    obtain rfl := Except.ok.inj assigned
    simp only [List.foldlM_cons, Instruction.execute, value_replace same replaced, computed]
    cases found : term.value (argumentValue values) (holding temporaries) with
    | error => rfl
    | ok value =>
      have grown : (temporaries ++ [value]).length + 1 = temporaries.length + 1 + 1 := by simp
      rw [← grown] at later
      refine Eq.trans ?_ (ih later)
      rw [← update_holding]
      rfl

theorem holding_nil : holding [] = fun _ => none := by
  funext destination
  match destination with
  | .result | .temporary 0 | .temporary (_ + 1) => rfl

theorem execute_assign {values : List Value} {arguments : List Text}
    (same : ∀ index text, argument arguments index = .ok text →
      literal text = argumentValue values index)
    {terms : List (Term Nat)} {code : List Instruction}
    (assigned : assign arguments 1 terms = .ok code) :
    (execute code >>= fun environment => held environment .result) = outcome values terms := by
  rw [execute, ← holding_nil, @fold_assign values arguments same [] terms code assigned, outcome]
  cases computed values [] terms with
  | error => rfl
  | ok all =>
    show ((last all >>= _) >>= _) = last all
    cases last all with
    | error => rfl
    | ok value => simp [bind, Except.bind, pure, Except.pure, held, known]

end Run
end FunctionCalculator.Code
