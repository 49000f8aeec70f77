import SchemaTypes.Proofs.Emit.CommentEnds
import SchemaTypes.Proofs.Emit.PropertyKeys

/-!
# `SchemaTypes.Proofs.Emit.MarkedLines`: comments line by line

Both kinds of comments are made by replacement in the whole text: the end
of a block comment is spelled out first, then every line break gets a
marker behind it. This module says what that comes to on the lines of the
text.

* Where neither the old nor the new text holds a line break, replacing
  goes on inside the lines (`lines_replaceAll`), so escaping a text
  escapes each of its lines.
* A marker behind every line break and one in front of the text is a
  marker in front of every line (`textLines_markLines`).

A documentation comment is thus an opening line, one marked line for each
line of the text and a closing line. None of these but the last one holds
the end of a comment: an escaped line has none, and the blank of the
marker keeps the star of the marker away from a slash that starts the
line. `comments_keep_lines` puts this together.
-/

set_option autoImplicit false

namespace SchemaTypes.Text

/-! ## Replacing and the lines of a text -/

/-- A text without a line break is one line, which `lines` gives as it
is. -/
theorem lines_of_notMem {s : List Char} (hs : '\n' ∉ s) : lines s = [s] :=
  List.splitOn_eq_singleton hs

/-- A text without a line break becomes the start of the first line of what
follows, and the other `lines` stay. -/
theorem lines_append_of_notMem {front s first : List Char} {below : List (List Char)}
    (hfront : '\n' ∉ front) (hs : lines s = first :: below) :
    lines (front ++ s) = (front ++ first) :: below := by
  have hline : lines front = [] ++ [front] := lines_of_notMem hfront
  exact lines_append hline hs

/-- An occurrence at the start is replaced by `replaceAll`, which goes on
behind it. -/
theorem replaceAll_append_self {old : List Char} (hold : old ≠ []) (new s : List Char) :
    replaceAll old new (old ++ s) = new ++ replaceAll old new s := by
  cases old with
  | nil => exact absurd rfl hold
  | cons c old =>
    rw [List.cons_append, replaceAll, if_pos (by simp)]
    simp

/-- Without an occurrence at the start, `replaceAll` keeps the first
character. -/
theorem replaceAll_cons_of_not {old rest : List Char} {c : Char}
    (h : ¬ (old <+: c :: rest ∧ old ≠ [])) (new : List Char) :
    replaceAll old new (c :: rest) = c :: replaceAll old new rest := by
  rw [replaceAll, if_neg (by simpa using h)]

/-- A text without occurrences is left as it is, character by character
(`replaceAll_cons_of_not`). -/
theorem replaceAll_of_not_infix {old s : List Char} (h : ¬ old <:+: s) (new : List Char) :
    replaceAll old new s = s := by
  induction s with
  | nil => rw [replaceAll]
  | cons c s ih =>
    rw [List.infix_cons_iff, not_or] at h
    rw [replaceAll_cons_of_not (fun hstart => h.1 hstart.1), ih h.2]

/-- Where neither text has a line break, `replaceAll` goes on inside the
lines. -/
theorem lines_replaceAll {old new : List Char} (hold : '\n' ∉ old) (hnew : '\n' ∉ new)
    (s : List Char) : lines (replaceAll old new s) = (lines s).map (replaceAll old new) := by
  fun_induction replaceAll old new s with
  | case1 => simp [lines, replaceAll]
  | case2 c rest hhere ih =>
    -- The occurrence lies on the first line, as it holds no line break.
    obtain ⟨hpre, hne⟩ : old <+: c :: rest ∧ old ≠ [] := by simpa using hhere
    obtain ⟨tail, htail⟩ := hpre
    have hdrop : rest.drop (old.length - 1) = tail := by
      obtain ⟨d, old, rfl⟩ := List.exists_cons_of_ne_nil hne
      obtain ⟨-, rfl⟩ := List.cons.inj htail
      simp
    rw [hdrop] at ih ⊢
    obtain ⟨first, below, hlines⟩ := exists_lines_eq_cons tail
    rw [hlines, List.map_cons] at ih
    rw [← htail, lines_append_of_notMem hnew ih, lines_append_of_notMem hold hlines, List.map_cons,
      replaceAll_append_self hne]
  | case3 c rest hhere ih =>
    by_cases hc : c = '\n'
    · subst hc
      rw [lines_cons_newline, lines_cons_newline, ih, List.map_cons, replaceAll]
    · obtain ⟨first, below, hlines⟩ := exists_lines_eq_cons rest
      -- What starts the first line starts the text, so the line keeps the character as well.
      have hstart : c :: first <+: c :: rest :=
        List.cons_prefix_cons.mpr ⟨rfl, prefix_of_lines_eq_cons hlines⟩
      have hkeep : replaceAll old new (c :: first) = c :: replaceAll old new first := by
        refine replaceAll_cons_of_not ?_ new
        rintro ⟨hpre, hne⟩
        exact hhere (by simpa using ⟨hpre.trans hstart, hne⟩)
      rw [lines_cons_of_ne hc, lines_cons_of_ne hc, ih, hlines, List.map_cons,
        List.modifyHead_cons, List.modifyHead_cons, List.map_cons, hkeep]

/-- A text that `replaceAll` puts behind every line break stands in front of
every line but the first. -/
theorem lines_replaceAll_newline {marker : List Char} (hmarker : '\n' ∉ marker)
    {s first : List Char} {below : List (List Char)} (hs : lines s = first :: below) :
    lines (replaceAll ['\n'] ('\n' :: marker) s) = first :: below.map (marker ++ ·) := by
  induction s generalizing first below with
  | nil =>
    obtain ⟨rfl, rfl⟩ := List.cons.inj (show [[]] = first :: below from hs)
    simp [replaceAll, lines]
  | cons c s ih =>
    obtain ⟨next, others, hlines⟩ := exists_lines_eq_cons s
    -- At a line break a new line starts with the marker, and any other character stays on its
    -- line.
    by_cases hc : c = '\n'
    · subst hc
      rw [lines_cons_newline, hlines] at hs
      obtain ⟨rfl, rfl⟩ := List.cons.inj hs
      have hstep := replaceAll_append_self (List.cons_ne_nil '\n' []) ('\n' :: marker) s
      rw [List.singleton_append] at hstep
      rw [hstep, List.cons_append, lines_cons_newline, lines_append_of_notMem hmarker (ih hlines),
        List.map_cons]
    · rw [lines_cons_of_ne hc, hlines, List.modifyHead_cons] at hs
      obtain ⟨rfl, rfl⟩ := List.cons.inj hs
      rw [replaceAll_cons_of_not (by simp [Ne.symm hc]), lines_cons_of_ne hc, ih hlines,
        List.modifyHead_cons]

end SchemaTypes.Text

namespace SchemaTypes.Emit

open Text (closing untilClosing?)

/-! ## Lines of a text -/

/-- The lines of a text; never empty. -/
def textLines (text : String) : List String :=
  (Text.lines text.toList).map String.ofList

/-- A text is the text of its lines: `joinText` takes back what `textLines`
does. -/
theorem joinText_textLines (text : String) : joinText (textLines text) = text := by
  have htexts : (textLines text).map String.toList = Text.lines text.toList := by
    simp [textLines, Function.comp_def]
  rw [joinText, Text.joinWith, htexts]
  exact congrArg String.ofList (Text.joinLines_lines _) |>.trans String.ofList_toList

/-- A line break between two texts keeps their `textLines` apart. -/
theorem textLines_append_newline (front back : String) :
    textLines (front ++ "\n" ++ back) = textLines front ++ textLines back := by
  have htext : (front ++ "\n" ++ back).toList = front.toList ++ '\n' :: back.toList := by simp
  rw [textLines, htext, Text.lines_append_newline, List.map_append]
  rfl

/-- A text that takes one line, in the sense of `OneLine`, is that line. -/
theorem textLines_of_oneLine {text : String} (h : OneLine text) : textLines text = [text] := by
  rw [textLines, Text.lines_of_notMem ((oneLine_iff text).mp h), List.map_singleton,
    String.ofList_toList]

/-- Escaping by `escapeComment` goes on line by line, since neither the end
of a comment nor its replacement has a line break in it. -/
theorem textLines_escapeComment (text : String) :
    textLines (escapeComment text) = (textLines text).map escapeComment := by
  rw [textLines, escapeComment, String.toList_ofList, Text.lines_replaceAll (by decide) (by decide)]
  simp [textLines, escapeComment]

/-- A text without the end of a comment needs no escaping, so
`escapeComment` changes nothing of it. -/
theorem escapeComment_of_not_closes {text : String} (h : ¬ Closes text) :
    escapeComment text = text := by
  unfold Closes closing at h
  rw [escapeComment, Text.replaceAll_of_not_infix h, String.ofList_toList]

/-- A text after `markLines` has the marker in front of each of its lines,
as many as there were. -/
theorem textLines_markLines {marker : String} (hmarker : OneLine marker) (text : String) :
    textLines (markLines marker text) = (textLines text).map (marker ++ ·) := by
  have hmarker := (oneLine_iff marker).mp hmarker
  obtain ⟨first, below, hlines⟩ := Text.exists_lines_eq_cons text.toList
  rw [textLines, markLines, String.toList_append, String.toList_ofList,
    Text.lines_append_of_notMem hmarker (Text.lines_replaceAll_newline hmarker hlines), textLines,
    hlines]
  simp

/-- The text without the first characters of each of its lines, as many as
the marker has. -/
def unmarkLines (marker text : String) : String :=
  joinText ((textLines text).map fun line => String.ofList (line.toList.drop marker.length))

/-- Without its markers, which `unmarkLines` takes off, a marked text is the
text. The marker is taken off by its length, whatever the line holds. -/
theorem unmarkLines_markLines {marker : String} (hmarker : OneLine marker) (text : String) :
    unmarkLines marker (markLines marker text) = text := by
  have hdrop : ∀ line : String,
      String.ofList ((marker ++ line).toList.drop marker.length) = line := by
    intro line
    rw [String.toList_append, ← String.length_toList, List.drop_left, String.ofList_toList]
  rw [unmarkLines, textLines_markLines hmarker, List.map_map]
  simp only [Function.comp_def, hdrop, List.map_id']
  exact joinText_textLines text

/-! ## Documentation comments -/

/-- The lines of a `docBlock`: the opening one, the lines of the text with
their markers and escaped, the closing one. -/
theorem textLines_docBlock {indent : String} (hindent : OneLine indent) (text : String) :
    textLines (docBlock text indent) =
      (indent ++ "/**") ::
        (textLines text).map (fun line => indent ++ " * " ++ escapeComment line) ++
        [indent ++ " */"] := by
  have hlayout : docBlock text indent =
      (indent ++ "/**") ++ "\n" ++ docLines text indent ++ "\n" ++ (indent ++ " */") := by
    have hopening : "/**\n" = "/**" ++ "\n" := rfl
    rw [docBlock, hopening]
    simp only [String.append_assoc]
  have hedge : ∀ back, OneLine back → OneLine (indent ++ back) := fun back hback =>
    (oneLine_append_iff indent back).mpr ⟨hindent, hback⟩
  rw [hlayout, textLines_append_newline, textLines_append_newline,
    textLines_of_oneLine (hedge "/**" (by decide)), textLines_of_oneLine (hedge " */" (by decide)),
    docLines, textLines_markLines (hedge " * " (by decide)), textLines_escapeComment, List.map_map]
  rfl

/-- The end of a block comment stands at the end of the text and at no
other place. -/
def ClosedAtEnd (text : String) : Prop :=
  closing <:+ text.toList ∧ ∀ before after, text.toList = before ++ closing ++ after → after = []

/-- The first end, which `untilClosing?` finds, is the only one if nothing
stands behind it, as a second one would need a character more. -/
theorem closedAtEnd_of_untilClosing? {text : String} {front : List Char}
    (hfirst : untilClosing? text.toList = some front) (htext : text.toList = front ++ closing) :
    ClosedAtEnd text := by
  refine ⟨⟨front, htext.symm⟩, ?_⟩
  intro before after hsplit
  obtain ⟨-, hnone⟩ := Text.untilClosing?_eq_some_iff.mp hfirst
  have hfound : closing <+: text.toList.drop before.length := by
    rw [hsplit, List.append_assoc, List.drop_left]
    exact List.prefix_append closing after
  have hle : front.length ≤ before.length := Nat.le_of_not_lt fun hlt => hnone _ hlt hfound
  have hlength := congrArg List.length (htext.symm.trans hsplit)
  simp only [List.length_append] at hlength
  exact List.eq_nil_of_length_eq_zero (by omega)

/-- A text without stars has no part in the end of a comment, so it may
stand in front of any line (`closes_append_iff`). -/
theorem closes_append_of_notMem {front : String} (hstar : '*' ∉ front.toList) (back : String) :
    Closes (front ++ back) ↔ Closes back := by
  have hfront : ¬ Closes front := fun h => hstar (h.subset List.mem_cons_self)
  rw [closes_append_iff fun hlast => absurd (List.mem_of_getLast? hlast) hstar,
    or_iff_right hfront]

/-- A marked line of a documentation comment does not end it: the marker
ends with a blank, and the line is escaped (`not_closes_escapeComment`). -/
theorem not_closes_docLine {indent : String} (hstar : '*' ∉ indent.toList) (line : String) :
    ¬ Closes (indent ++ " * " ++ escapeComment line) := by
  have hmarker : ¬ Closes " * " := by decide
  rw [String.append_assoc, closes_append_of_notMem hstar, closes_append_iff (by simp),
    or_iff_right hmarker]
  exact not_closes_escapeComment line

/-- A documentation comment ends with its last line and nowhere before. No
line above it holds an end, so `untilClosing?_joinText` finds the last
one. -/
theorem closedAtEnd_docBlock {indent : String} (hline : OneLine indent)
    (hstar : '*' ∉ indent.toList) (text : String) : ClosedAtEnd (docBlock text indent) := by
  let above := (indent ++ "/**") ::
    (textLines text).map fun line => indent ++ " * " ++ escapeComment line
  have hlines : docBlock text indent = joinText (above ++ [indent ++ " */"]) := by
    rw [← textLines_docBlock hline, joinText_textLines]
  -- No line above the last one holds an end.
  have habove : ∀ line ∈ above, ¬ Closes line := by
    rw [List.forall_mem_cons, List.forall_mem_map, closes_append_of_notMem hstar]
    exact ⟨by decide, fun line _ => not_closes_docLine hstar line⟩
  -- The last line holds one, behind the indentation and a blank.
  have hcut : untilClosing? (indent ++ " */").toList = some (indent ++ " ").toList := by
    have hblank : untilClosing? " */".toList = some " ".toList := by decide
    have hindent : untilClosing? indent.toList = none :=
      not_closes_iff.mp fun h => hstar (h.subset List.mem_cons_self)
    rw [String.toList_append, Text.untilClosing?_append (by simp), hindent, hblank,
      String.toList_append]
    rfl
  have hfirst : untilClosing? (docBlock text indent).toList =
      some (joinText (above ++ [indent ++ " "])).toList := by
    rw [hlines, untilClosing?_joinText habove hcut, String.ofList_toList]
  refine closedAtEnd_of_untilClosing? hfirst ?_
  have hend : indent ++ " */" = indent ++ " " ++ "*/" := by
    rw [String.append_assoc]
    rfl
  rw [hlines, hend, joinText_concat_append, String.toList_append]
  rfl

/-! ## Indents -/

/-- An indentation of blanks takes one line, as `OneLine` says. -/
theorem oneLine_of_spaces {indent : String} (h : ∀ c ∈ indent.toList, c = ' ') :
    OneLine indent := by
  rw [oneLine_iff]
  intro hmem
  exact absurd (h _ hmem) (by decide)

/-- Comments keep each line of a text, whatever the text is. In a
documentation comment the lines stand between the opening and the closing
one, each behind its marker and escaped, which changes a line only if it
holds the end of a comment; and the comment ends with its last two
characters and not before. In a comment with number signs the lines stand
as they are behind their marker, so the text can be read back. -/
theorem comments_keep_lines (text : String) {indent : String}
    (hindent : ∀ c ∈ indent.toList, c = ' ') :
    (textLines (docBlock text indent) =
        (indent ++ "/**") ::
          (textLines text).map (fun line => indent ++ " * " ++ escapeComment line) ++
          [indent ++ " */"] ∧
      (∀ line ∈ textLines text, ¬ Closes line → escapeComment line = line) ∧
      ClosedAtEnd (docBlock text indent)) ∧
    (textLines (hashComment text indent) =
        (textLines text).map (fun line => indent ++ "# " ++ line) ∧
      unmarkLines (indent ++ "# ") (hashComment text indent) = text) := by
  have hline := oneLine_of_spaces hindent
  have hstar : '*' ∉ indent.toList := fun hmem => absurd (hindent _ hmem) (by decide)
  have hhash : OneLine (indent ++ "# ") := (oneLine_append_iff indent "# ").mpr ⟨hline, by decide⟩
  refine ⟨⟨textLines_docBlock hline text, ?_, closedAtEnd_docBlock hline hstar text⟩,
    textLines_markLines hhash text, unmarkLines_markLines hhash text⟩
  exact fun line _ => escapeComment_of_not_closes

/-- A line that ends with a star, and below it one that starts with a slash
and ends with the end of a comment. -/
theorem comments_keep_lines_slashes :
    textLines (docBlock "a *\n/b**/" indent) =
        ["    /**", "     * a *", "     * /b*(star)/", "     */"] ∧
      ClosedAtEnd (docBlock "a *\n/b**/" indent) ∧
    textLines (hashComment "a *\n/b**/" indent) = ["    # a *", "    # /b**/"] ∧
      unmarkLines (indent ++ "# ") (hashComment "a *\n/b**/" indent) = "a *\n/b**/" := by
  obtain ⟨⟨hdoc, hplain, hclosed⟩, hhash, hback⟩ :=
    comments_keep_lines "a *\n/b**/" (show ∀ c ∈ indent.toList, c = ' ' by simp [indent])
  have hlines : textLines "a *\n/b**/" = ["a *", "/b**/"] := by decide
  have hfirst : escapeComment "a *" = "a *" :=
    hplain "a *" (hlines ▸ List.mem_cons_self) (by decide)
  have hsecond : escapeComment "/b**/" = "/b*(star)/" := by
    simp [escapeComment, Text.replaceAll]
  rw [hlines] at hdoc hhash
  refine ⟨hdoc.trans ?_, hclosed, hhash, hback⟩
  rw [List.map_cons, List.map_cons, hfirst, hsecond]
  rfl

end SchemaTypes.Emit
