/-!
# `SchemaTypes.Text.Slice`: pieces of a text by position

Positions count characters. A bound may be negative, in which case it
counts from the end, and a bound outside the text is moved to the
nearest end, so every pair of bounds names a piece.
-/

set_option autoImplicit false

namespace SchemaTypes.Text

/-- The position that a bound names in a text of `size` characters. -/
def bound (size : Nat) (i : Int) : Nat :=
  if i < 0 then (i + size).toNat else min i.toNat size

/-- The characters from the bound `start` up to the bound `stop`. -/
def slice (s : List Char) (start stop : Int) : List Char :=
  (s.take (bound s.length stop)).drop (bound s.length start)

end SchemaTypes.Text
