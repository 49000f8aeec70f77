import SchemaTypes.Text.Lines

/-!
# `SchemaTypes.Proofs.Text.LinePositions`: positions and the lines that hold them

A position of a text lies on one of its lines, the one whose number is the
number of newlines in front of the position. What stands before the
position and what stands behind it are texts with lines of their own.
`exists_cutAt` puts the three together: the lines in front are the lines
above and a first part of the line of the position, the lines behind are
the rest of that line and the lines below, and the line itself is both
parts in a row.
-/

set_option autoImplicit false

namespace SchemaTypes.Text

/-- The number of the line that holds a position, counted from zero. -/
def lineAt (source : List Char) (p : Nat) : Nat :=
  (source.take p).count '\n'

/-- The line with a number. -/
def line (source : List Char) (i : Nat) : List Char :=
  (lines source).getD i []

/-- The position at which the line with a number starts: behind all lines
before it, each with its newline. -/
def lineStart (source : List Char) (i : Nat) : Nat :=
  (((lines source).take i).flatMap (· ++ ['\n'])).length

/-- The part of the line of a position that stands before the position. -/
def lineBefore (source : List Char) (p : Nat) : List Char :=
  (line source (lineAt source p)).take (p - lineStart source (lineAt source p))

/-! ## Lines, character by character -/

/-- A newline at the start makes an empty first line. Together with
`lines_cons_of_ne` this says what `lines` does with one character. -/
theorem lines_cons_newline (s : List Char) : lines ('\n' :: s) = [] :: lines s := by
  unfold lines List.splitOn
  rw [List.splitOnP_cons_eq_if_modifyHead]
  rfl

/-- Any other character at the start belongs to the first line. With
`lines_cons_newline` this is the recursion that the inductions over the
lines of a text follow; `lines` itself is defined by splitting. -/
theorem lines_cons_of_ne {c : Char} (hc : c ≠ '\n') (s : List Char) :
    lines (c :: s) = (lines s).modifyHead (c :: ·) := by
  unfold lines List.splitOn
  rw [List.splitOnP_cons_eq_if_modifyHead, if_neg (by simpa using hc)]

/-- The `lines` of two texts with a newline between them are the lines of
the first and then those of the second. -/
theorem lines_append_newline (before after : List Char) :
    lines (before ++ '\n' :: after) = lines before ++ lines after := by
  unfold lines List.splitOn
  exact List.splitOnP_append_cons before after rfl

/-- A text has a first line, even if it is empty: `lines` never gives an
empty list. -/
theorem exists_lines_eq_cons (s : List Char) : ∃ first below, lines s = first :: below :=
  List.exists_cons_of_ne_nil (List.splitOn_ne_nil '\n' s)

/-- A text has one line more than newlines. So the number that `lineAt`
gives to a position is the number of newlines in front of it. -/
theorem length_lines (s : List Char) : (lines s).length = s.count '\n' + 1 := by
  induction s with
  | nil => rfl
  | cons c s ih =>
    by_cases hc : c = '\n'
    · subst hc
      rw [lines_cons_newline, List.length_cons, ih, List.count_cons_self]
    · rw [lines_cons_of_ne hc, List.length_modifyHead, ih, List.count_cons_of_ne hc]

/-- The lines, each with its newline, are the text with a newline behind it.
`lineStart` counts the characters of this text. -/
theorem flatMap_lines (s : List Char) : (lines s).flatMap (· ++ ['\n']) = s ++ ['\n'] := by
  induction s with
  | nil => rfl
  | cons c s ih =>
    by_cases hc : c = '\n'
    · subst hc
      rw [lines_cons_newline, List.flatMap_cons, ih]
      rfl
    · obtain ⟨first, below, hlines⟩ := exists_lines_eq_cons s
      rw [hlines, List.flatMap_cons] at ih
      rw [lines_cons_of_ne hc, hlines, List.modifyHead_cons, List.flatMap_cons, List.cons_append,
        List.cons_append, ih, List.cons_append]

/-- The lines with newlines between them are the text: `joinLines` takes
back what `lines` does. -/
theorem joinLines_lines (s : List Char) : joinLines (lines s) = s :=
  List.intercalate_splitOn '\n'

/-- The first line of a text is what the text starts with. What is said of a
line from its start can thereby be said of the text. -/
theorem prefix_of_lines_eq_cons {s first : List Char} {below : List (List Char)}
    (h : lines s = first :: below) : first <+: s := by
  rw [← joinLines_lines s, h, joinLines]
  cases below with
  | nil => simp
  | cons second below =>
    rw [List.intercalate_cons_cons]
    exact ⟨_, (List.append_assoc _ _ _).symm⟩

/-- Where two texts meet, the last line of the first one and the first line
of the second one become one line. `lines_append_newline` is the case of a
newline between them. -/
theorem lines_append {a b : List Char} {above below : List (List Char)} {before behind : List Char}
    (ha : lines a = above ++ [before]) (hb : lines b = behind :: below) :
    lines (a ++ b) = above ++ (before ++ behind) :: below := by
  induction a generalizing above before with
  | nil =>
    have hnil : above ++ [before] = [[]] := ha.symm
    obtain ⟨rfl, rfl⟩ : above = [] ∧ before = [] := by
      simpa [List.append_eq_singleton_iff] using hnil
    exact hb
  | cons c a ih =>
    by_cases hc : c = '\n'
    · subst hc
      rw [lines_cons_newline] at ha
      cases above with
      | nil => exact absurd (List.cons.inj ha).2 (List.splitOn_ne_nil '\n' a)
      | cons first above =>
        obtain ⟨rfl, hrest⟩ := List.cons.inj ha
        rw [List.cons_append, lines_cons_newline, ih hrest, List.cons_append]
    · obtain ⟨first, others, hlines⟩ := exists_lines_eq_cons a
      rw [lines_cons_of_ne hc, hlines, List.modifyHead_cons] at ha
      rw [List.cons_append, lines_cons_of_ne hc]
      -- The character goes to the front of the first line, which may be the one that is joined.
      cases above with
      | nil =>
        obtain ⟨rfl, rfl⟩ := List.cons.inj ha
        have hlines : lines a = [] ++ [first] := hlines
        rw [ih hlines]
        rfl
      | cons line above =>
        obtain ⟨rfl, rfl⟩ := List.cons.inj ha
        have hlines : lines a = (first :: above) ++ [before] := hlines
        rw [ih hlines]
        rfl

/-! ## The line of a position -/

/-- How a position cuts the lines of a text: `above` and `below` are the
lines that it leaves whole, `before` and `behind` the parts of its own. -/
structure CutAt (source : List Char) (p : Nat) (above : List (List Char))
    (before behind : List Char) (below : List (List Char)) : Prop where
  lines_take : lines (source.take p) = above ++ [before]
  lines_drop : lines (source.drop p) = behind :: below
  lines_eq : lines source = above ++ (before ++ behind) :: below
  lineAt_eq : lineAt source p = above.length
  lineStart_add : lineStart source above.length + before.length = p

/-- Every position cuts the lines of its text in the way that `CutAt`
describes. The parts come from cutting the text itself: its lines are those
in front of the position and those behind it, joined at the position
(`lines_append`). -/
theorem exists_cutAt {source : List Char} {p : Nat} (hp : p ≤ source.length) :
    ∃ above before behind below, CutAt source p above before behind below := by
  obtain ⟨behind, below, hdrop⟩ := exists_lines_eq_cons (source.drop p)
  obtain ⟨above, before, htake⟩ : ∃ above before, lines (source.take p) = above ++ [before] :=
    ⟨_, _, (List.dropLast_concat_getLast (List.splitOn_ne_nil '\n' (source.take p))).symm⟩
  have hlines : lines source = above ++ (before ++ behind) :: below := by
    have hjoin := lines_append htake hdrop
    rwa [List.take_append_drop] at hjoin
  refine ⟨above, before, behind, below, htake, hdrop, hlines, ?_, ?_⟩
  · have hlength := length_lines (source.take p)
    rw [htake, List.length_append, List.length_singleton] at hlength
    exact (Nat.succ.inj hlength).symm
  · -- Without its last newline, the text in front is the lines above and the part before.
    have htext : above.flatMap (· ++ ['\n']) ++ before = source.take p := by
      have hlines := flatMap_lines (source.take p)
      rw [htake, List.flatMap_append, List.flatMap_singleton, ← List.append_assoc] at hlines
      exact List.append_cancel_right hlines
    rw [lineStart, hlines, List.take_left' rfl, ← List.length_append, htext, List.length_take,
      Nat.min_eq_left hp]

namespace CutAt

variable {source : List Char} {p : Nat} {above below : List (List Char)} {before behind : List Char}

/-- The line of a position is what stands on it before the position and what
stands behind, the two parts that `CutAt` names. -/
theorem line_eq (h : CutAt source p above before behind below) :
    line source (lineAt source p) = before ++ behind := by
  rw [line, h.lineAt_eq, h.lines_eq, List.getD_eq_getElem?_getD, List.getElem?_append_right
    (Nat.le_refl _), Nat.sub_self]
  rfl

/-- What stands on the line before the position is the last line in front of
the position. This ties `lineBefore`, which counts characters, to the lines
of the text that was cut off. -/
theorem lineBefore_eq (h : CutAt source p above before behind below) :
    lineBefore source p = before := by
  have hlength : p - lineStart source above.length = before.length := by
    have := h.lineStart_add
    omega
  rw [lineBefore, h.line_eq, h.lineAt_eq, hlength, List.take_left' rfl]

end CutAt

/-- A run of line numbers names the lines of a piece of the text. Blocks of
comment lines are given by numbers in `Comment.blockLines` and by lines in
the reading that runs. -/
theorem map_line_range' {source : List Char} {start count : Nat}
    (h : start + count ≤ (lines source).length) :
    (List.range' start count).map (line source) = ((lines source).drop start).take count := by
  refine List.ext_getElem ?_ ?_
  · rw [List.length_map, List.length_range', List.length_take, List.length_drop]
    omega
  · intro i hi _
    have hi : i < count := by simpa using hi
    have hline : start + i < (lines source).length := by omega
    simp [line, hline]

/-- Later positions do not lie on earlier lines, as `lineAt` numbers them:
there are at least as many newlines in front of them. -/
theorem lineAt_mono {source : List Char} {p q : Nat} (h : p ≤ q) :
    lineAt source p ≤ lineAt source q :=
  (List.take_sublist_take_left h).count_le '\n'

end SchemaTypes.Text
