import Mathlib.Data.List.DropRight
import SchemaTypes.Proofs.Model.CommentFragments
import SchemaTypes.Proofs.Text.LinePositions

/-!
# `SchemaTypes.Proofs.Model.CommentLines`: comments told by the lines of a text

`Comment.recover` cuts the text at a position and looks at the lines of
either piece. `Comment.byLines` tells the same by the lines of the whole
text and their numbers: the line of the position is the one whose number
is the number of newlines in front of it, the block above is the longest
run of comment lines that ends just before that line, and the block below
is the longest run that starts just behind it. `recover_eq_byLines` shows
that both agree on every text and every position, inside the text or not.
-/

set_option autoImplicit false

namespace SchemaTypes.Comment

open Text (line lineAt lineBefore)

/-- A comment line starts with the marker, blanks apart. -/
def isCommentLine (line : List Char) : Bool :=
  ['-', '-'].isPrefixOf (Text.trim line)

/-- The text of a comment line: what is left of it without the blanks at
its ends, the marker, and one space behind the marker. -/
def commentText (line : List Char) : List Char :=
  let text := (Text.trim line).drop 2
  if [' '].isPrefixOf text then text.drop 1 else text

/-- The numbers of the lines in the block of comment lines beside the line
of a position: the longest run that ends before it, or that starts behind
it. -/
def blockLines (source : List Char) (p : Nat) : Side → List Nat
  | .above => (List.range (lineAt source p)).rtakeWhile fun i => isCommentLine (line source i)
  | .below =>
    (List.range' (lineAt source p + 1)
      ((Text.lines source).length - (lineAt source p + 1))).takeWhile
        fun i => isCommentLine (line source i)

/-- The comment that lines make up: their texts, without those at either
end that hold only blanks. Nothing if no text is left. -/
def description (source : List Char) (numbers : List Nat) : Option String :=
  let texts := numbers.map fun i => commentText (line source i)
  match (texts.dropWhile Text.allBlank).rdropWhile Text.allBlank with
  | [] => none
  | texts => some (String.ofList (Text.joinLines texts))

/-- The comment beside a position of the text. Above, there is none unless
only blanks stand before the position on its line. -/
def commentBeside (source : List Char) (p : Nat) : Side → Option String
  | .above =>
    if Text.allBlank (lineBefore source p) then
      description source (blockLines source p .above)
    else
      none
  | .below => description source (blockLines source p .below)

/-- The comment beside a position, told by the lines of the text. A position
that is missing or lies outside the text has none. -/
def byLines (source : List Char) (position : Option Int) (side : Side) : Option String :=
  match position with
  | none => none
  | some p =>
    if p < 0 ∨ source.length < p then none else commentBeside source p.toNat side

/-! ## Comment lines -/

/-- The text of a comment line in two steps: whether the line is one, and
what stands behind its marker. In `lineText?` both are done at once by
matching the line. -/
theorem lineText?_eq (line : List Char) :
    lineText? line = if isCommentLine line then some (commentText line) else none := by
  unfold lineText? isCommentLine commentText
  -- The marker with a space behind it, the marker alone, or no marker.
  split
  next text htrim => simp [htrim]
  next text hspace htrim =>
    cases text with
    | nil => simp [htrim]
    | cons c text =>
      have hc : c ≠ ' ' := fun h => hspace text (by rw [h])
      simp [htrim, hc.symm]
  next hspace hmarker =>
    have hnone : ['-', '-'].isPrefixOf (Text.trim line) = false := by
      rw [Bool.eq_false_iff, ne_eq, List.isPrefixOf_iff_prefix]
      rintro ⟨text, htext⟩
      exact hmarker text htext.symm
    rw [hnone]
    rfl

/-- The leading comment lines are the longest run at the front, each with
the text behind its marker (`lineText?_eq`). -/
theorem leading_eq (ls : List (List Char)) :
    leading ls = (ls.takeWhile isCommentLine).map commentText := by
  induction ls with
  | nil => rfl
  | cons line ls ih =>
    rw [leading, lineText?_eq]
    by_cases h : isCommentLine line = true
    · rw [if_pos h, List.takeWhile_cons_of_pos h, List.map_cons, ← ih]
    · rw [if_neg h, List.takeWhile_cons_of_neg h, List.map_nil]

/-! ## Blocks -/

/-- The longest run at the end of a list that is mapped, as
`List.takeWhile_map` has it for the front. -/
theorem rtakeWhile_map {α β : Type} (f : α → β) (p : β → Bool) (l : List α) :
    (l.map f).rtakeWhile p = (l.rtakeWhile (p ∘ f)).map f := by
  rw [List.rtakeWhile, List.rtakeWhile, ← List.map_reverse, List.takeWhile_map, List.map_reverse]

variable {source : List Char} {p : Nat} {above below : List (List Char)} {before behind : List Char}

/-- The block above, whose numbers `blockLines` gives, is a run at the end
of the lines above. Its lines are counted from the start of the text, so
they are the numbers below that of the line of the position. -/
theorem map_blockLines_above (h : Text.CutAt source p above before behind below) :
    (blockLines source p .above).map (line source) = above.rtakeWhile isCommentLine := by
  have habove : (List.range (lineAt source p)).map (line source) = above := by
    rw [List.range_eq_range', Text.map_line_range' (by rw [h.lines_eq, h.lineAt_eq]; simp),
      h.lines_eq, h.lineAt_eq, List.drop_zero, List.take_left' rfl]
  rw [← habove, rtakeWhile_map]
  rfl

/-- The block below, whose numbers `blockLines` gives, is a run at the front
of the lines below. Their numbers start behind the line of the position and
go on to the last line. -/
theorem map_blockLines_below (h : Text.CutAt source p above before behind below) :
    (blockLines source p .below).map (line source) = below.takeWhile isCommentLine := by
  have hlength : (Text.lines source).length = above.length + 1 + below.length := by
    rw [h.lines_eq, List.length_append, List.length_cons]
    omega
  have hbelow : (List.range' (lineAt source p + 1)
      ((Text.lines source).length - (lineAt source p + 1))).map (line source) = below := by
    have hdrop : (Text.lines source).drop (above.length + 1) = below := by
      rw [h.lines_eq, ← List.drop_drop, List.drop_left' rfl]
      rfl
    rw [Text.map_line_range' (by rw [h.lineAt_eq]; omega), h.lineAt_eq, hdrop,
      List.take_of_length_le (by omega)]
  rw [← hbelow, List.takeWhile_map]
  rfl

/-- The comment lines above a position are those of the block above it,
unless something stands before the position on its own line. The block is
found by `map_blockLines_above`. -/
theorem linesAbove_eq (h : Text.CutAt source p above before behind below) :
    linesAbove source p =
      if Text.allBlank (lineBefore source p) then
        (blockLines source p .above).map fun i => commentText (line source i)
      else
        [] := by
  have hmap : ((blockLines source p .above).map fun i => commentText (line source i)) =
      (above.rtakeWhile isCommentLine).map commentText := by
    rw [← map_blockLines_above h, List.map_map]
    rfl
  rw [linesAbove, h.lines_take, List.reverse_append, h.lineBefore_eq, hmap]
  show (if Text.allBlank before then (leading above.reverse).reverse else []) = _
  rw [leading_eq, ← List.map_reverse]
  rfl

/-- The comment lines below a position are those of the block below it,
whatever stands on its own line. The block is found by
`map_blockLines_below`. -/
theorem linesBelow_eq (h : Text.CutAt source p above before behind below) :
    linesBelow source p =
      (blockLines source p .below).map fun i => commentText (line source i) := by
  rw [linesBelow, h.lines_drop, List.tail_cons, leading_eq, ← map_blockLines_below h, List.map_map]
  rfl

/-! ## Comments -/

/-- What is recovered beside a position in the text is the comment of the
block of lines beside it. The text is cut at the position by
`Text.exists_cutAt`, and from then on all is about lists of lines. -/
theorem recover_eq_commentBeside (hp : p ≤ source.length) (side : Side) :
    recover source (some p) side = commentBeside source p side := by
  obtain ⟨above, before, behind, below, hcut⟩ := Text.exists_cutAt hp
  rw [recover_of_le hp]
  cases side with
  | above =>
    rw [linesBeside, linesAbove_eq hcut, commentBeside]
    by_cases hblank : Text.allBlank (lineBefore source p) = true
    · rw [if_pos hblank, if_pos hblank]
      rfl
    · rw [if_neg hblank, if_neg hblank]
      rfl
  | below =>
    rw [linesBeside, linesBelow_eq hcut]
    rfl

/-- Outside the text there is no comment for `recover` to give. -/
theorem recover_eq_none_of_outside (source : List Char) {position : Int}
    (h : position < 0 ∨ source.length < position) (side : Side) :
    recover source (some position) side = none := by
  have hout : (decide (position < 0) || decide ((source.length : Int) < position)) = true := by
    simpa using h
  exact if_pos hout

/-- **Comments by lines.** What is recovered beside a position is what the
lines of the text tell, for every text, every position and either side.
Where there is no position, or one outside the text, there is no
comment. -/
theorem recover_eq_byLines (source : List Char) (position : Option Int) (side : Side) :
    recover source position side = byLines source position side := by
  cases position with
  | none => rfl
  | some p =>
    by_cases hp : p < 0 ∨ source.length < p
    · rw [byLines, if_pos hp]
      exact recover_eq_none_of_outside source hp side
    · obtain ⟨n, rfl⟩ : ∃ n : Nat, p = n := ⟨p.toNat, by omega⟩
      rw [byLines, if_neg hp]
      exact recover_eq_commentBeside (by omega) side

end SchemaTypes.Comment
