import FunctionCalculator.Text.Basic
import FunctionCalculator.Text.CaseTable
/-!
Lower case of texts. Almost every character is lowered alone; the capital sigma looks at its
neighbours, and the capital I with a dot becomes two characters.
-/

set_option autoImplicit false

namespace FunctionCalculator.Text

def LowerRange.lower? (range : LowerRange) (code : Nat) : Option Nat :=
  if range.first ≤ code ∧ code ≤ range.last ∧ (code - range.first) % range.step = 0 then
    some (code + range.distance).toNat
  else none

def lowerChar (c : Char) : Text :=
  if c = '\u0130' then ['i', '\u0307']
  else
    match lowerRanges.findSome? (·.lower? c.toNat) with
    | some code => [Char.ofNat code]
    | none => [c]

def isCased (c : Char) : Bool := inRanges casedRanges c

def isCaseIgnorable (c : Char) : Bool := inRanges caseIgnorableRanges c

def meetsCased (text : Text) : Bool :=
  match text.dropWhile isCaseIgnorable with
  | [] => false
  | c :: _ => isCased c

-- The lower-case form of a text, given what stands before it, the nearest character first. A
-- capital sigma that ends a word becomes a final sigma.
def lowerAfter (before : Text) : Text → Text
  | [] => []
  | c :: rest =>
    (if c = '\u03a3' then
      [if meetsCased before && !meetsCased rest then '\u03c2' else '\u03c3']
    else lowerChar c) ++ lowerAfter (c :: before) rest

def lower (text : Text) : Text := lowerAfter [] text

end FunctionCalculator.Text
