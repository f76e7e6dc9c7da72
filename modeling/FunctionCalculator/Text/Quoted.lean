import FunctionCalculator.Text.Basic
import FunctionCalculator.Text.UnprintableTable
/-!
Texts in quotation marks, on one line and with every character visible.
-/

set_option autoImplicit false

namespace FunctionCalculator.Text

def isPrintable (c : Char) : Bool := !inRanges unprintableRanges c

def hexadecimal (width n : Nat) : Text :=
  (List.range width).reverse.map fun place => Nat.digitChar (n >>> (4 * place) % 16)

def escape (mark c : Char) : Text :=
  if c = mark ∨ c = '\\' then ['\\', c]
  else if c = '\n' then ['\\', 'n']
  else if c = '\r' then ['\\', 'r']
  else if c = '\t' then ['\\', 't']
  else if isPrintable c then [c]
  else if c.toNat < 0x100 then '\\' :: 'x' :: hexadecimal 2 c.toNat
  else if c.toNat < 0x10000 then '\\' :: 'u' :: hexadecimal 4 c.toNat
  else '\\' :: 'U' :: hexadecimal 8 c.toNat

def quoted (text : Text) : Text :=
  let mark := if '\x27' ∈ text ∧ '\x22' ∉ text then '\x22' else '\x27'
  mark :: text.flatMap (escape mark) ++ [mark]

end FunctionCalculator.Text
