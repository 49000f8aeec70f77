import SchemaTypes.Generate.Source
import SchemaTypes.Model.Comment
import SchemaTypes.Proofs.Text.LinePositions

/-!
# `SchemaTypes.Proofs.Model.CommentFragments`: comments stay in their fragment

Comments are recovered from the whole source, in which fragments are
joined with a blank line between two of them. This module shows that the
other fragments do not matter: what is recovered beside a position of a
fragment is what is recovered in the fragment alone
(`recover_between_fragments`).

The blank line is what keeps comment blocks apart. It is not a comment
line, so a block that touches the edge of its fragment ends there, and
`leading` sees nothing behind it (`leading_append_of_none`). On the side
above, the first line of a fragment has no line before it when it stands
alone and the blank line before it when it does not; on the side below,
the last line is followed by no line or by the blank one. In each pair
the block is empty.
-/

set_option autoImplicit false

namespace SchemaTypes.Comment

open Text (lines_append_newline)

/-- The lines of two texts with a blank line between them:
`Text.lines_append_newline` twice. -/
theorem lines_append_separator (before after : List Char) :
    Text.lines (before ++ '\n' :: '\n' :: after) =
      Text.lines before ++ [] :: Text.lines after := by
  have hblank : Text.lines ('\n' :: after) = [] :: Text.lines after :=
    lines_append_newline [] after
  rw [lines_append_newline, hblank]

/-- A text has at least one line, so `Text.lines` can be taken apart at the
front and at the end. -/
theorem lines_ne_nil (s : List Char) : Text.lines s ≠ [] :=
  List.splitOn_ne_nil '\n' s

/-- A block of comment lines, as `leading` gathers it, ends at the first
line that is none, so what follows that line does not matter. -/
theorem leading_append_of_none (block rest : List (List Char)) {line : List Char}
    (hline : lineText? line = none) : leading (block ++ line :: rest) = leading block := by
  induction block with
  | nil => simp [leading, hline]
  | cons first block ih =>
    simp only [List.cons_append, leading]
    cases lineText? first with
    | none => rfl
    | some text => simp [ih]

/-! ## One side at a time -/

/-- A fragment in front does not change the lines above a position: by
`leading_append_of_none` the blank line of the separator ends the block. -/
theorem linesAbove_separator_append (before source : List Char) (p : Nat) :
    linesAbove (before ++ '\n' :: '\n' :: source) (before.length + 2 + p) =
      linesAbove source p := by
  have htake : (before ++ '\n' :: '\n' :: source).take (before.length + 2 + p) =
      before ++ '\n' :: '\n' :: source.take p := by
    rw [Nat.add_assoc, List.take_length_add_append, Nat.add_comm 2 p]
    rfl
  have hlines : (Text.lines (before ++ '\n' :: '\n' :: source.take p)).reverse =
      (Text.lines (source.take p)).reverse ++ [] :: (Text.lines before).reverse := by
    simp [lines_append_separator]
  unfold linesAbove
  rw [htake, hlines]
  -- The line of the position belongs to the fragment in either case, so the
  -- blank line can only be among the lines above it.
  cases hrev : (Text.lines (source.take p)).reverse with
  | nil => exact absurd (List.reverse_eq_nil_iff.mp hrev) (lines_ne_nil _)
  | cons indent above => simp [leading_append_of_none above _ (rfl : lineText? [] = none)]

/-- What follows a position does not change the lines above it, of which
`linesAbove` reads only the text in front of the position. -/
theorem linesAbove_append (source after : List Char) {p : Nat} (hp : p ≤ source.length) :
    linesAbove (source ++ after) p = linesAbove source p := by
  unfold linesAbove
  rw [List.take_append_of_le_length hp]

/-- What precedes a position does not change the lines below it, of which
`linesBelow` reads only the text behind the position. -/
theorem linesBelow_append_left (before source : List Char) (p : Nat) :
    linesBelow (before ++ source) (before.length + p) = linesBelow source p := by
  unfold linesBelow
  rw [List.drop_length_add_append]

/-- A fragment behind does not change the lines below a position: by
`leading_append_of_none` the blank line of the separator ends the block. -/
theorem linesBelow_append_separator (source after : List Char) {p : Nat}
    (hp : p ≤ source.length) :
    linesBelow (source ++ '\n' :: '\n' :: after) p = linesBelow source p := by
  unfold linesBelow
  rw [List.drop_append_of_le_length hp, lines_append_separator]
  cases hlines : Text.lines (source.drop p) with
  | nil => exact absurd hlines (lines_ne_nil _)
  | cons line below =>
    simp [leading_append_of_none below _ (rfl : lineText? [] = none)]

/-! ## Both sides -/

/-- The comment lines beside a position inside a text. -/
def linesBeside (source : List Char) (p : Nat) : Side → List (List Char)
  | .above => linesAbove source p
  | .below => linesBelow source p

/-- What `recover` gives inside a text: the comment lines beside the
position, if any of them holds text. -/
theorem recover_of_le {source : List Char} {p : Nat} (hp : p ≤ source.length) (side : Side) :
    recover source (some p) side =
      match trimLines (linesBeside source p side) with
      | [] => none
      | texts => some (String.ofList (Text.joinLines texts)) := by
  have hinside : ¬((decide ((p : Int) < 0) || decide ((source.length : Int) < p)) = true) := by
    rw [Bool.or_eq_true, decide_eq_true_eq, decide_eq_true_eq]
    omega
  cases side with
  | above => exact if_neg hinside
  | below => exact if_neg hinside

/-- Two positions with the same comment lines beside them have the same
comment, by `recover_of_le` for both. -/
theorem recover_congr {source source' : List Char} {p p' : Nat} {side : Side}
    (hp : p ≤ source.length) (hp' : p' ≤ source'.length)
    (hlines : linesBeside source p side = linesBeside source' p' side) :
    recover source (some p) side = recover source' (some p') side := by
  rw [recover_of_le hp, recover_of_le hp', hlines]

/-- A fragment in front does not change what is recovered, since neither
`linesAbove_separator_append` nor `linesBelow_append_left` sees it. -/
theorem recover_after_fragment (before source : List Char) {p : Nat} (hp : p ≤ source.length)
    (side : Side) :
    recover (before ++ Source.separator.toList ++ source)
        (some ((before.length + 2 + p : Nat) : Int)) side =
      recover source (some p) side := by
  have hsource : before ++ Source.separator.toList ++ source =
      before ++ '\n' :: '\n' :: source := by
    simp [Source.separator]
  rw [hsource]
  refine recover_congr (by simp; omega) hp ?_
  cases side with
  | above => exact linesAbove_separator_append before source p
  | below =>
    -- Below, the fragment and the separator are both text in front of the position.
    have hsplit : before ++ '\n' :: '\n' :: source = (before ++ ['\n', '\n']) ++ source := by
      simp
    have hlength : before.length + 2 = (before ++ ['\n', '\n']).length := by simp
    show linesBelow _ _ = linesBelow _ _
    rw [hsplit, hlength]
    exact linesBelow_append_left _ source p

/-- A fragment behind does not change what is recovered, since neither
`linesAbove_append` nor `linesBelow_append_separator` sees it. -/
theorem recover_before_fragment (source after : List Char) {p : Nat} (hp : p ≤ source.length)
    (side : Side) :
    recover (source ++ Source.separator.toList ++ after) (some p) side =
      recover source (some p) side := by
  have hsource : source ++ Source.separator.toList ++ after =
      source ++ '\n' :: '\n' :: after := by
    simp [Source.separator]
  rw [hsource]
  refine recover_congr (by simp; omega) hp ?_
  cases side with
  | above => exact linesAbove_append source _ hp
  | below => exact linesBelow_append_separator source after hp

/-- **Comments stay in their fragment.** What is recovered beside a
position of a fragment, on either side, is the same whether the fragment
stands alone, between two others, behind one or in front of one. -/
theorem recover_between_fragments (before source after : List Char) (p : Nat)
    (hp : p ≤ source.length) (side : Side) :
    recover (before ++ Source.separator.toList ++ source ++ Source.separator.toList ++ after)
        (some ((before.length + 2 + p : Nat) : Int)) side = recover source (some p) side ∧
      recover (before ++ Source.separator.toList ++ source)
        (some ((before.length + 2 + p : Nat) : Int)) side = recover source (some p) side ∧
      recover (source ++ Source.separator.toList ++ after) (some p) side =
        recover source (some p) side := by
  have hbefore := recover_after_fragment before source hp side
  refine ⟨?_, hbefore, recover_before_fragment source after hp side⟩
  have hinside : before.length + 2 + p ≤ (before ++ Source.separator.toList ++ source).length := by
    simp [Source.separator]
    omega
  rw [recover_before_fragment _ after hinside side, hbefore]

/-- A comment block at the edge of its fragment: the comment in front of
the separator belongs to another fragment. -/
theorem recover_between_fragments_edge :
    recover ("-- other".toList ++ Source.separator.toList ++ "-- doc\nx".toList ++
        Source.separator.toList ++ "-- more".toList)
        (some (("-- other".toList.length + 2 + 7 : Nat) : Int)) .above =
      recover "-- doc\nx".toList (some ((7 : Nat) : Int)) .above ∧
      recover "-- doc\nx".toList (some ((7 : Nat) : Int)) .above = some "doc" :=
  ⟨(recover_between_fragments "-- other".toList "-- doc\nx".toList "-- more".toList 7
    (by decide) .above).1, by decide⟩

end SchemaTypes.Comment
