/-!
A text is a sequence of Unicode code points. This module holds the type, cutting a text at chosen
characters, blank characters, decimal digits of all scripts, and line ends.
-/

set_option autoImplicit false

namespace FunctionCalculator

abbrev Text := List Char

instance : Coe String Text := ⟨String.toList⟩

namespace Text

def pieces (cut : Char → Bool) : Text → List Text
  | [] => [[]]
  | c :: rest =>
    if cut c then [] :: pieces cut rest
    else (pieces cut rest).modifyHead (c :: ·)

def join (separator : Text) (texts : List Text) : Text := List.intercalate separator texts

def inRanges (ranges : List (Nat × Nat)) (c : Char) : Bool :=
  ranges.any fun range => range.1 ≤ c.toNat && c.toNat ≤ range.2

def startsWith (start text : Text) : Bool := start.isPrefixOf text

def padRight (width : Nat) (text : Text) : Text := text ++ List.replicate (width - text.length) ' '

section Blanks

-- White space and separators of information: the four controls 1C to 1F are blank, a zero-width
-- space is not.
def blankRanges : List (Nat × Nat) := [
  (0x9, 0xd), (0x1c, 0x20), (0x85, 0x85), (0xa0, 0xa0), (0x1680, 0x1680), (0x2000, 0x200a),
  (0x2028, 0x2029), (0x202f, 0x202f), (0x205f, 0x205f), (0x3000, 0x3000)]

def isBlank (c : Char) : Bool := inRanges blankRanges c

def trimLeft (text : Text) : Text := text.dropWhile isBlank

def trimRight (text : Text) : Text := (text.reverse.dropWhile isBlank).reverse

def trim (text : Text) : Text := trimRight (trimLeft text)

def words (text : Text) : List Text := (pieces isBlank text).filter (· ≠ [])

end Blanks

section DecimalDigits

-- Each script has its ten digits in a row, from zero to nine.
def zeroDigits : List Nat := [
  0x30, 0x660, 0x6f0, 0x7c0, 0x966, 0x9e6, 0xa66, 0xae6, 0xb66, 0xbe6, 0xc66, 0xce6, 0xd66, 0xde6,
  0xe50, 0xed0, 0xf20, 0x1040, 0x1090, 0x17e0, 0x1810, 0x1946, 0x19d0, 0x1a80, 0x1a90, 0x1b50,
  0x1bb0, 0x1c40, 0x1c50, 0xa620, 0xa8d0, 0xa900, 0xa9d0, 0xa9f0, 0xaa50, 0xabf0, 0xff10, 0x104a0,
  0x10d30, 0x11066, 0x110f0, 0x11136, 0x111d0, 0x112f0, 0x11450, 0x114d0, 0x11650, 0x116c0,
  0x11730, 0x118e0, 0x11950, 0x11c50, 0x11d50, 0x11da0, 0x16a60, 0x16ac0, 0x16b50, 0x1d7ce,
  0x1d7d8, 0x1d7e2, 0x1d7ec, 0x1d7f6, 0x1e140, 0x1e2f0, 0x1e950, 0x1fbf0]

def digitValue? (c : Char) : Option Nat :=
  zeroDigits.findSome? fun first =>
    if first ≤ c.toNat ∧ c.toNat ≤ first + 9 then some (c.toNat - first) else none

def isDigit (c : Char) : Bool := (digitValue? c).isSome

def digitValues (text : Text) : List Nat := text.filterMap digitValue?

def ofDigitValues (values : List Nat) : Nat := values.foldl (fun sum digit => 10 * sum + digit) 0

end DecimalDigits

section LineEnds

def unifyLineEnds : Text → Text
  | [] => []
  | '\r' :: '\n' :: rest => '\n' :: unifyLineEnds rest
  | c :: rest => (if c = '\r' then '\n' else c) :: unifyLineEnds rest

def dropFinalLineFeeds (text : Text) : Text := (text.reverse.dropWhile (· = '\n')).reverse

end LineEnds

end Text
end FunctionCalculator
