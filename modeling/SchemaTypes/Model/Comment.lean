import SchemaTypes.Text.Blank
import SchemaTypes.Text.Lines

/-!
# `SchemaTypes.Model.Comment`: the comment beside a declaration

The comment of a declaration is the unbroken block of `--` lines beside
it: above its line, provided that nothing but blanks stands before it on
that line, or below its line. A line that is blank or holds anything else
ends the block. Comment lines without text are dropped at both ends of
the block, and a block without text is no comment.
-/

set_option autoImplicit false

namespace SchemaTypes.Comment

/-- The side of a declaration on which its comment stands. -/
inductive Side where
  | above
  | below
deriving Repr, DecidableEq, Inhabited

/-- The text of a comment line: what follows the marker and at most one
blank. Nothing if the line is not a comment. -/
def lineText? (line : List Char) : Option (List Char) :=
  match Text.trim line with
  | '-' :: '-' :: ' ' :: text => some text
  | '-' :: '-' :: text => some text
  | _ => none

/-- The texts of the comment lines in front, up to the first line that is
none. -/
def leading : List (List Char) → List (List Char)
  | [] => []
  | line :: rest =>
    match lineText? line with
    | some text => text :: leading rest
    | none => []

/-- The lines without those at either end that hold only blanks. -/
def trimLines (texts : List (List Char)) : List (List Char) :=
  ((texts.dropWhile Text.allBlank).reverse.dropWhile Text.allBlank).reverse

/-- The comment lines above a position, in the order of the text. -/
def linesAbove (source : List Char) (position : Nat) : List (List Char) :=
  match (Text.lines (source.take position)).reverse with
  | indent :: above => if Text.allBlank indent then (leading above).reverse else []
  | [] => []

/-- The comment lines below the line of a position. -/
def linesBelow (source : List Char) (position : Nat) : List (List Char) :=
  leading (Text.lines (source.drop position)).tail

/-- The comment beside a position of a text, if there is one. A position
outside the text has none. -/
def recover (source : List Char) (position : Option Int) (side : Side) : Option String :=
  match position with
  | some p =>
    if p < 0 || source.length < p then none
    else
      let found :=
        match side with
        | .above => linesAbove source p.toNat
        | .below => linesBelow source p.toNat
      match trimLines found with
      | [] => none
      | texts => some (String.ofList (Text.joinLines texts))
  | none => none

end SchemaTypes.Comment
