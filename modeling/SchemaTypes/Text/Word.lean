import SchemaTypes.Text.Blank
import SchemaTypes.Text.WordTable
import SchemaTypes.Text.DigitTable

/-!
# `SchemaTypes.Text.Word`: word characters and digits

Membership in the classes of `Text.WordTable` and `Text.DigitTable`,
with ASCII answered first.
-/

set_option autoImplicit false

namespace SchemaTypes.Text

/-- Whether a character may stand in a word: a letter, a numeral or the
underscore, of any script. -/
def isWordChar (c : Char) : Bool :=
  if c.toNat < 0x80 then c.isAlphanum || c == '_' else inRanges wordRanges c.toNat

/-- Whether a character is a digit of any script, superscripts included. -/
def isDigitChar (c : Char) : Bool :=
  if c.toNat < 0x80 then c.isDigit else inRanges digitRanges c.toNat

/-- Whether a character is a decimal digit of any script. -/
def isDecimalChar (c : Char) : Bool :=
  if c.toNat < 0x80 then c.isDigit else inRanges decimalRanges c.toNat

/-- A decimal digit of any script as the ASCII digit of the same value, and
any other character as it is. Every range of decimal digits starts with a
zero. -/
def plainDigit (c : Char) : Char :=
  match decimalRanges.find? fun range => range.1 ≤ c.toNat && c.toNat ≤ range.2 with
  | some (first, _) => Char.ofNat ('0'.toNat + (c.toNat - first) % 10)
  | none => c

end SchemaTypes.Text
