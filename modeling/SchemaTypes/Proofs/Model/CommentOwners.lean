import Mathlib.Data.List.Basic
import SchemaTypes.Proofs.Model.CommentLines

/-!
# `SchemaTypes.Proofs.Model.CommentOwners`: a comment line documents one declaration

The comments above two declarations never share a line
(`comment_lines_apart`). Two facts keep them apart. A declaration is not
blank, so nothing that stands behind it on its line has a comment above
(`mem_lineBefore`): if both declarations have one, they stand on different
lines. And the line of the first declaration starts with it, so that line
is not a comment line (`not_isCommentLine_of_cutAt`), and a run of comment
lines that goes up from the second declaration ends below it.
-/

set_option autoImplicit false

namespace SchemaTypes.Text

variable {source : List Char} {p q : Nat} {above below : List (List Char)}
  {before behind : List Char} {c : Char}

/-- Behind a position, in the part that `CutAt` calls so, stands its
character, unless that is a newline. -/
theorem CutAt.exists_behind (h : CutAt source p above before behind below)
    (hchar : source[p]? = some c) (hc : c ≠ '\n') : ∃ rest, behind = c :: rest := by
  obtain ⟨hp, rfl⟩ := List.getElem?_eq_some_iff.mp hchar
  obtain ⟨first, others, hlines⟩ := exists_lines_eq_cons (source.drop (p + 1))
  have hdrop := h.lines_drop
  rw [List.drop_eq_getElem_cons hp, lines_cons_of_ne hc, hlines, List.modifyHead_cons] at hdrop
  exact ⟨first, (List.cons.inj hdrop).1.symm⟩

/-- A character of a line is in the `lineBefore` of all later positions of
the line. -/
theorem mem_lineBefore (hpq : p < q) (hchar : source[p]? = some c) (hc : c ≠ '\n')
    (hline : lineAt source q = lineAt source p) : c ∈ lineBefore source q := by
  have hp : p ≤ source.length := Nat.le_of_lt (List.getElem?_eq_some_iff.mp hchar).1
  obtain ⟨above, before, behind, below, hcut⟩ := exists_cutAt hp
  obtain ⟨rest, rfl⟩ := hcut.exists_behind hchar hc
  have hbefore : before ++ [c] <+: lineBefore source q := by
    rw [lineBefore, hline, hcut.line_eq, hcut.lineAt_eq, List.prefix_take_iff]
    refine ⟨⟨rest, by simp⟩, ?_⟩
    have := hcut.lineStart_add
    rw [List.length_append, List.length_singleton]
    omega
  exact hbefore.subset (List.mem_append_right _ (List.mem_singleton_self c))

/-- Blanks in front of a text that starts with something else are taken away
by `trim`. -/
theorem trim_append_cons (hbefore : allBlank before = true) (hc : isBlank c = false)
    (rest : List Char) : trim (before ++ c :: rest) = trimRight (c :: rest) := by
  have hall : ∀ x ∈ before, isBlank x = true := List.all_eq_true.mp hbefore
  rw [trim, List.dropWhile_append_of_pos hall, List.dropWhile_cons_of_neg (by simp [hc])]

end SchemaTypes.Text

namespace SchemaTypes.Comment

open Text (line lineAt lineBefore)

variable {source : List Char} {p q : Nat} {above below : List (List Char)}
  {before behind : List Char} {c : Char}

/-- A run of numbers that reaches up to an end, given by `List.rtakeWhile`,
leaves out none on the way. -/
theorem mem_rtakeWhile_range {P : Nat → Bool} {k i : Nat}
    (h : i ∈ (List.range k).rtakeWhile P) : i < k ∧ ∀ j, i ≤ j → j < k → P j = true := by
  induction k with
  | zero => simp at h
  | succ k ih =>
    rw [List.range_succ, List.rtakeWhile_concat] at h
    split at h
    -- The last number belongs to the run, so the run goes on below it.
    case isTrue hk =>
      rcases List.mem_append.mp h with hmem | hmem
      · obtain ⟨hi, hrun⟩ := ih hmem
        refine ⟨by omega, fun j hij hj => ?_⟩
        rcases Nat.lt_succ_iff_lt_or_eq.mp hj with hlt | rfl
        · exact hrun j hij hlt
        · exact hk
      · obtain rfl := List.mem_singleton.mp hmem
        refine ⟨Nat.lt_succ_self i, fun j hij hj => ?_⟩
        obtain rfl : j = i := by omega
        exact hk
    case isFalse => simp at h

/-- A line that starts with a declaration is no comment line: behind the
blanks that `trim` takes away there is no marker. -/
theorem not_isCommentLine_of_cutAt (h : Text.CutAt source p above before behind below)
    (hbefore : Text.allBlank before = true) (hchar : source[p]? = some c) (hc : c ≠ '\n')
    (hblank : Text.isBlank c = false) (hmarker : ¬['-', '-'] <+: source.drop p) :
    isCommentLine (line source (lineAt source p)) = false := by
  obtain ⟨rest, rfl⟩ := h.exists_behind hchar hc
  rw [h.line_eq, isCommentLine, Text.trim_append_cons hbefore hblank, Bool.eq_false_iff, ne_eq,
    List.isPrefixOf_iff_prefix]
  intro hstarts
  -- What is left of the line is where the text goes on from the position.
  have htrim : Text.trimRight (c :: rest) <+: c :: rest := List.rdropWhile_prefix _ _
  exact hmarker ((hstarts.trans htrim).trans (Text.prefix_of_lines_eq_cons h.lines_drop))

/-- A comment above a position is made up of the lines of the block above it
(`blockLines`), and only blanks stand before the position on its line. -/
theorem of_recover_above {text : String} (h : recover source (some p) .above = some text) :
    p ≤ source.length ∧ Text.allBlank (lineBefore source p) = true ∧
      description source (blockLines source p .above) = some text := by
  have hp : p ≤ source.length := by
    by_contra hout
    rw [recover_eq_none_of_outside source (by omega)] at h
    cases h
  rw [recover_eq_commentBeside hp, commentBeside] at h
  split at h
  case isTrue hblank => exact ⟨hp, hblank, h⟩
  case isFalse => cases h

/-- **No comment line documents two declarations.** Let a declaration stand
at `p`, which is neither blank nor the start of a comment, and let `q` be a
later position. If a comment is recovered above each of them, the lines
that make up the first one lie above the line of `p`, and those that make
up the second one lie below it. -/
theorem comment_lines_apart (hpq : p < q) (hchar : source[p]? = some c)
    (hblank : Text.isBlank c = false) (hmarker : ¬['-', '-'] <+: source.drop p)
    {first second : String} (hfirst : recover source (some p) .above = some first)
    (hsecond : recover source (some q) .above = some second) :
    (description source (blockLines source p .above) = some first ∧
        ∀ i ∈ blockLines source p .above, i < lineAt source p) ∧
      (description source (blockLines source q .above) = some second ∧
        ∀ i ∈ blockLines source q .above, lineAt source p < i) ∧
      (blockLines source p .above).Disjoint (blockLines source q .above) := by
  have hc : c ≠ '\n' := by
    rintro rfl
    exact absurd hblank (by decide)
  obtain ⟨hp, hbeforeP, hfirst⟩ := of_recover_above hfirst
  obtain ⟨-, hbeforeQ, hsecond⟩ := of_recover_above hsecond
  have hline : lineAt source p < lineAt source q := by
    refine Nat.lt_of_le_of_ne (Text.lineAt_mono (Nat.le_of_lt hpq)) fun heq => ?_
    -- On one line, the character at `p` would be among the blanks before `q`.
    have hmem := List.all_eq_true.mp hbeforeQ c (Text.mem_lineBefore hpq hchar hc heq.symm)
    rw [hblank] at hmem
    cases hmem
  have hcode : isCommentLine (line source (lineAt source p)) = false := by
    obtain ⟨above, before, behind, below, hcut⟩ := Text.exists_cutAt hp
    rw [hcut.lineBefore_eq] at hbeforeP
    exact not_isCommentLine_of_cutAt hcut hbeforeP hchar hc hblank hmarker
  have habove : ∀ i ∈ blockLines source p .above, i < lineAt source p :=
    fun i hi => (mem_rtakeWhile_range hi).1
  have hbelow : ∀ i ∈ blockLines source q .above, lineAt source p < i := by
    intro i hi
    by_contra hle
    -- The run goes down to the line of `q`, so it would hold the line of `p`.
    have hrun := (mem_rtakeWhile_range hi).2 (lineAt source p) (Nat.not_lt.mp hle) hline
    rw [hcode] at hrun
    cases hrun
  refine ⟨⟨hfirst, habove⟩, ⟨hsecond, hbelow⟩, ?_⟩
  intro i hi hi'
  exact Nat.lt_asymm (habove i hi) (hbelow i hi')

/-- Two declarations with a comment line above each. -/
theorem comment_lines_apart_pair :
    recover "-- a\nx\n-- b\ny".toList (some ((5 : Nat) : Int)) .above = some "a" ∧
      recover "-- a\nx\n-- b\ny".toList (some ((12 : Nat) : Int)) .above = some "b" ∧
      (blockLines "-- a\nx\n-- b\ny".toList 5 .above).Disjoint
        (blockLines "-- a\nx\n-- b\ny".toList 12 .above) := by
  have hfirst : recover "-- a\nx\n-- b\ny".toList (some ((5 : Nat) : Int)) .above = some "a" := by
    decide
  have hsecond : recover "-- a\nx\n-- b\ny".toList (some ((12 : Nat) : Int)) .above = some "b" := by
    decide
  have happart := comment_lines_apart (c := 'x') (by decide : 5 < 12) (by decide) (by decide)
    (by decide) hfirst hsecond
  exact ⟨hfirst, hsecond, happart.2.2⟩

end SchemaTypes.Comment
