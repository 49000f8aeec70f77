/-!
# `SchemaTypes.Text.Blank`: blank characters

What counts as a blank everywhere in the library: the separators and
the controls that Unicode lists as white space, together with the four
information separators. A zero-width space or a byte-order mark is not
a blank. Trimming and splitting into words are defined on lists of
characters, where they are `dropWhile` on either side.
-/

set_option autoImplicit false

namespace SchemaTypes.Text

/-- Whether a code point lies in one of the inclusive ranges. -/
def inRanges (ranges : List (Nat × Nat)) (code : Nat) : Bool :=
  ranges.any fun range => range.1 ≤ code && code ≤ range.2

/-- The blanks, as inclusive ranges in ascending order. -/
def blankRanges : List (Nat × Nat) :=
  [(0x9, 0xD), (0x1C, 0x20), (0x85, 0x85), (0xA0, 0xA0), (0x1680, 0x1680),
   (0x2000, 0x200A), (0x2028, 0x2029), (0x202F, 0x202F), (0x205F, 0x205F),
   (0x3000, 0x3000)]

/-- Whether a character is a blank. -/
def isBlank (c : Char) : Bool :=
  inRanges blankRanges c.toNat

/-- The text without the blanks at its end. -/
def trimRight (s : List Char) : List Char :=
  (s.reverse.dropWhile isBlank).reverse

/-- The text without the blanks at either end. -/
def trim (s : List Char) : List Char :=
  trimRight (s.dropWhile isBlank)

/-- The maximal runs of characters that are not blanks, in order. -/
def words (s : List Char) : List (List Char) :=
  (s.splitOnP isBlank).filter fun word => !word.isEmpty

/-- Whether a text consists of blanks only; the empty text does. -/
def allBlank (s : List Char) : Bool :=
  s.all isBlank

end SchemaTypes.Text
