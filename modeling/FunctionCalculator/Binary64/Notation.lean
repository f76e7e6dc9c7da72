import FunctionCalculator.Binary64.Decimal
import FunctionCalculator.Integer.Decimal
/-!
Doubles as decimal text. Numbers from a ten-thousandth up to ten to the sixteenth are written in
places with at least one after the point, all others with an exponent of at least two digits.
-/

set_option autoImplicit false

namespace FunctionCalculator.Binary64

def significant (d : Decimal) : List Nat × Int :=
  let digits := Integer.digits d.coefficient
  ((digits.dropWhile (· = 0)).reverse, digits.length + d.exponent - 1)

def exponentText (exponent : Int) : Text :=
  let digits := Integer.naturalText exponent.natAbs
  (if exponent < 0 then '-' else '+') :: (List.replicate (2 - digits.length) '0' ++ digits)

def layout (digits : List Nat) (place : Int) : Text :=
  let figures : Text := digits.map Nat.digitChar
  if 0 ≤ place ∧ place < 16 then
    let whole := place.toNat + 1
    let fraction := figures.drop whole
    figures.take whole ++ List.replicate (whole - figures.length) '0' ++
      '.' :: (if fraction = [] then ['0'] else fraction)
  else if -4 ≤ place ∧ place < 0 then
    '0' :: '.' :: (List.replicate (-place - 1).toNat '0' ++ figures)
  else
    figures.take 1 ++ (if figures.length ≤ 1 then [] else '.' :: figures.drop 1) ++
      'e' :: exponentText place

def finiteText (negative : Bool) (rank : Fin finiteRanks) : Text :=
  let magnitude : Text :=
    if rank.val = 0 then "0.0"
    else
      let (digits, place) := significant (shortestDecimal rank)
      layout digits place
  if negative then '-' :: magnitude else magnitude

def text : Binary64 → Text
  | .nan => "NaN"
  | .infinity negative => if negative then "-Infinity" else "Infinity"
  | .finite negative rank => finiteText negative rank

def readExponent? : Text → Option Int
  | [] => some 0
  | c :: rest =>
    let (negative, digits) := Integer.splitSign rest
    if (c = 'e' ∨ c = 'E') ∧ digits ≠ [] ∧ digits.all Text.isDigit then
      some (Integer.signed negative (Text.ofDigitValues (Text.digitValues digits)))
    else none

def read? (text : Text) : Option Binary64 :=
  let (negative, rest) := Integer.splitSign text
  let whole := rest.takeWhile Text.isDigit
  let (fraction, rest) :=
    match rest.dropWhile Text.isDigit with
    | '.' :: rest => (rest.takeWhile Text.isDigit, rest.dropWhile Text.isDigit)
    | rest => ([], rest)
  if whole = [] ∧ fraction = [] then none
  else
    (readExponent? rest).map fun exponent =>
      ofDecimal negative (Text.ofDigitValues (Text.digitValues (whole ++ fraction)))
        (exponent - fraction.length)

end FunctionCalculator.Binary64
