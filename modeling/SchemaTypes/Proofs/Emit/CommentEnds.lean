import SchemaTypes.Proofs.Emit.Blocks

/-!
# `SchemaTypes.Proofs.Emit.CommentEnds`: where the comment of a type ends

A block comment ends at the first `*/` behind its start, whoever wrote
it. The comment of a table type is put together from lines of three
kinds, and the lines differ in what they do about the two characters:

* the description is rewritten by `escapeComment`, so it never ends the
  comment, whatever it is (`not_closes_docLines`);
* a tag shows the name of a table, of a schema or of the read type as it
  is, and ends the comment exactly if that name holds the two characters
  (`closes_tag_iff`);
* the first line above an object schema shows the name of the type as it
  is (`closes_titleLine_iff`).

Neither a line break nor a marker can complete the pair, so the lines are
looked at one by one (`untilClosing?_append`, `untilClosing?_joinText`).
`closed_by_own_line_iff` is the result: the line that is meant to close
the comment does so exactly if no name that is shown holds the two
characters, and if one does, the rest of its line and all lines below it
are read as code.
-/

set_option autoImplicit false

namespace SchemaTypes.Text

/-- The end of a block comment. -/
def closing : List Char := ['*', '/']

/-- What stands in front of the first end of a block comment; `none` if
the text has no such end. -/
def untilClosing? : List Char → Option (List Char)
  | [] => none
  | c :: rest =>
    if closing.isPrefixOf (c :: rest) then some [] else (untilClosing? rest).map (c :: ·)

/-- The end of a comment, `closing`, stands at the front of a text if the
text starts with its two characters. -/
theorem closing_isPrefixOf_cons (c : Char) (s : List Char) :
    closing.isPrefixOf (c :: s) = true ↔ c = '*' ∧ s.head? = some '/' := by
  cases s with
  | nil => simp [closing, List.isPrefixOf]
  | cons d s =>
    simp only [closing, List.isPrefixOf, Bool.and_true, Bool.and_eq_true, beq_iff_eq,
      List.head?_cons, Option.some.injEq]
    exact and_congr eq_comm eq_comm

/-- A text has no end of a comment exactly if none stands at its front
(`closing_isPrefixOf_cons`) and none in its rest. -/
theorem untilClosing?_cons_eq_none_iff {c : Char} {s : List Char} :
    untilClosing? (c :: s) = none ↔
      ¬ (c = '*' ∧ s.head? = some '/') ∧ untilClosing? s = none := by
  rw [untilClosing?, ← closing_isPrefixOf_cons]
  split <;> simp_all

/-- The end is found by `untilClosing?` at its first place: it stands behind
the text in front of it, and at no earlier position. -/
theorem untilClosing?_eq_some_iff {s front : List Char} :
    untilClosing? s = some front ↔
      front ++ closing <+: s ∧ ∀ n < front.length, ¬ closing <+: s.drop n := by
  induction s generalizing front with
  | nil => simp [untilClosing?, closing]
  | cons c s ih =>
    rw [untilClosing?]
    split
    · -- The pair starts here, so nothing stands in front of it.
      rename_i hhere
      have hhere : closing <+: c :: s := List.isPrefixOf_iff_prefix.mp hhere
      constructor
      · intro h
        cases Option.some.inj h
        exact ⟨hhere, fun n hn => absurd hn (Nat.not_lt_zero n)⟩
      · rintro ⟨-, hfirst⟩
        cases front with
        | nil => rfl
        | cons d front => exact absurd hhere (hfirst 0 (Nat.succ_pos _))
    · -- Positions in the rest are one lower than in the whole.
      rename_i hhere
      have hhere : ¬ closing <+: c :: s := fun h => hhere (List.isPrefixOf_iff_prefix.mpr h)
      rw [Option.map_eq_some_iff]
      constructor
      · rintro ⟨tail, htail, rfl⟩
        obtain ⟨hpre, hfirst⟩ := ih.mp htail
        refine ⟨List.prefix_cons_iff.mpr (Or.inr ⟨tail ++ closing, rfl, hpre⟩), ?_⟩
        intro n hn
        cases n with
        | zero => exact hhere
        | succ n => exact hfirst n (Nat.lt_of_succ_lt_succ hn)
      · rintro ⟨hpre, hfirst⟩
        cases front with
        | nil => exact absurd hpre hhere
        | cons d front =>
          obtain ⟨rfl, htail⟩ := List.cons_prefix_cons.mp hpre
          exact ⟨front, ih.mpr ⟨htail, fun n hn => hfirst (n + 1) (Nat.succ_lt_succ hn)⟩, rfl⟩

/-- Nothing is found exactly if the two characters stand nowhere next to
each other, which is the negation of `Closes`. -/
theorem untilClosing?_eq_none_iff {s : List Char} :
    untilClosing? s = none ↔ ¬ closing <:+: s := by
  induction s with
  | nil => simp [untilClosing?, closing]
  | cons c s ih =>
    rw [untilClosing?, List.infix_cons_iff, ← List.isPrefixOf_iff_prefix]
    split <;> simp_all

/-- In front of the first end there is none, or `untilClosing?` would have
stopped there. -/
theorem untilClosing?_front {s front : List Char} (h : untilClosing? s = some front) :
    untilClosing? front = none := by
  obtain ⟨hfront, hfirst⟩ := untilClosing?_eq_some_iff.mp h
  cases hcut : untilClosing? front with
  | none => rfl
  | some cut =>
    -- An end inside the front would stand at an earlier position of the whole.
    have hearlier : cut ++ closing <+: front := (untilClosing?_eq_some_iff.mp hcut).1
    have hlength : cut.length < front.length := by
      have hle := hearlier.length_le
      simp only [List.length_append, closing, List.length_cons, List.length_nil] at hle
      omega
    obtain ⟨back, rfl⟩ := hearlier.trans ((List.prefix_append front closing).trans hfront)
    refine absurd ?_ (hfirst cut.length hlength)
    rw [List.append_assoc, List.drop_left]
    exact List.prefix_append closing back

/-- Two texts are looked at by `untilClosing?` one after the other, unless
the pair is completed where they meet. -/
theorem untilClosing?_append {s u : List Char}
    (hmeet : s.getLast? = some '*' → u.head? ≠ some '/') :
    untilClosing? (s ++ u) = (untilClosing? s).or ((untilClosing? u).map (s ++ ·)) := by
  induction s with
  | nil => simp [untilClosing?]
  | cons c s ih =>
    -- Whether the pair starts here is decided inside of the first text.
    have hhere : closing.isPrefixOf (c :: (s ++ u)) = closing.isPrefixOf (c :: s) := by
      rw [Bool.eq_iff_iff, closing_isPrefixOf_cons, closing_isPrefixOf_cons]
      cases s with
      | nil =>
        show c = '*' ∧ u.head? = some '/' ↔ c = '*' ∧ none = some '/'
        constructor
        · rintro ⟨rfl, hu⟩
          exact absurd hu (hmeet rfl)
        · rintro ⟨-, h⟩
          cases h
      | cons d s => rfl
    have htail : s.getLast? = some '*' → u.head? ≠ some '/' := by
      intro hlast
      apply hmeet
      rw [List.getLast?_cons, hlast]
      rfl
    rw [List.cons_append, untilClosing?, untilClosing?, hhere, ih htail]
    split
    · rfl
    · cases untilClosing? s with
      | some front => rfl
      | none => simp [Function.comp_def]

/-- A line break completes no pair, so a line is looked at by itself and
then what follows it. This is `untilClosing?_append` with a line break where
the two meet. -/
theorem untilClosing?_line (line rest : List Char) :
    untilClosing? (line ++ '\n' :: rest) =
      (untilClosing? line).or ((untilClosing? rest).map (line ++ '\n' :: ·)) := by
  have hbreak : untilClosing? ('\n' :: rest) = (untilClosing? rest).map ('\n' :: ·) := by
    rw [untilClosing?, if_neg]
    rw [closing_isPrefixOf_cons]
    simp
  rw [untilClosing?_append (by simp), hbreak, Option.map_map]
  rfl

/-! ### Texts in which occurrences are replaced -/

/-- What a text starts with after `replaceAll` was there before, if no
replacement starts with it. A replacement can therefore not complete a pair
that a star has started. -/
theorem head?_of_head?_replaceAll {old new s : List Char} {c d : Char}
    (hnew : new.head? = some d) (hc : c ≠ d) (h : (replaceAll old new s).head? = some c) :
    s.head? = some c := by
  cases s with
  | nil => simp [replaceAll] at h
  | cons e s =>
    rw [replaceAll] at h
    split at h
    · simp only [List.head?_append, hnew, Option.some_or, Option.some.injEq] at h
      exact absurd h.symm hc
    · exact h

/-- A text in which every end of a comment is replaced has none, if the
replacement has none and does not start with a slash or end with a star.
`head?_of_head?_replaceAll` is for the first of these. -/
theorem untilClosing?_replaceAll_closing {new : List Char} {d : Char} (hhead : new.head? = some d)
    (hd : '/' ≠ d) (hlast : new.getLast? ≠ some '*') (hnew : untilClosing? new = none)
    (s : List Char) : untilClosing? (replaceAll closing new s) = none := by
  fun_induction replaceAll closing new s with
  | case1 => rfl
  | case2 c rest _ ih =>
    rw [untilClosing?_append (fun h => absurd h hlast), hnew, ih]
    rfl
  | case3 c rest hhere ih =>
    -- A slash behind a star that is kept would have been there before.
    refine untilClosing?_cons_eq_none_iff.mpr ⟨?_, ih⟩
    rintro ⟨hc, hslash⟩
    have hrest : rest.head? = some '/' := head?_of_head?_replaceAll hhead hd hslash
    have hpair := (closing_isPrefixOf_cons c rest).mpr ⟨hc, hrest⟩
    rw [hpair] at hhere
    exact hhere rfl

/-- Replacing line breaks brings no end of a comment into a text, if the
replacement has none and starts with a line break and does not end with a
star. Otherwise the star could meet a slash at the start of the next
line. -/
theorem untilClosing?_replaceAll_newline {marker s : List Char}
    (hlast : ('\n' :: marker).getLast? ≠ some '*') (hmarker : untilClosing? ('\n' :: marker) = none)
    (hs : untilClosing? s = none) :
    untilClosing? (replaceAll ['\n'] ('\n' :: marker) s) = none := by
  fun_induction replaceAll ['\n'] ('\n' :: marker) s with
  | case1 => rfl
  | case2 c rest _ ih =>
    have hrest : untilClosing? rest = none := (untilClosing?_cons_eq_none_iff.mp hs).2
    have hreplaced : untilClosing? (replaceAll ['\n'] ('\n' :: marker) rest) = none := ih hrest
    -- The replacement has no end in it, and does not start one.
    rw [untilClosing?_append (fun h => absurd h hlast), hmarker]
    show none.or (Option.map _ (untilClosing? (replaceAll ['\n'] ('\n' :: marker) rest))) = none
    rw [hreplaced]
    rfl
  | case3 c rest _ ih =>
    obtain ⟨hpair, hrest⟩ := untilClosing?_cons_eq_none_iff.mp hs
    refine untilClosing?_cons_eq_none_iff.mpr ⟨?_, ih hrest⟩
    -- A slash behind the star was there before the replacement.
    rintro ⟨hc, hslash⟩
    exact hpair ⟨hc, head?_of_head?_replaceAll rfl (by decide) hslash⟩

end SchemaTypes.Text

namespace SchemaTypes.Emit

open Text (closing untilClosing?)

/-- The text holds the end of a block comment. -/
def Closes (text : String) : Prop :=
  closing <:+: text.toList

/-- The search by `untilClosing?` decides whether a text holds the end of a
comment. -/
theorem not_closes_iff {text : String} : ¬ Closes text ↔ untilClosing? text.toList = none :=
  Text.untilClosing?_eq_none_iff.symm

instance (text : String) : Decidable (Closes text) :=
  decidable_of_iff (¬ untilClosing? text.toList = none)
    ((not_congr not_closes_iff).symm.trans Classical.not_not)

/-- An end in a text of two parts lies in one of them, unless its two
characters meet where the parts do. This is `untilClosing?_append` in terms
of `Closes`. -/
theorem closes_append_iff {front back : String}
    (hmeet : front.toList.getLast? = some '*' → back.toList.head? ≠ some '/') :
    Closes (front ++ back) ↔ Closes front ∨ Closes back := by
  have hnone : ¬ Closes (front ++ back) ↔ ¬ Closes front ∧ ¬ Closes back := by
    rw [not_closes_iff, not_closes_iff, not_closes_iff, String.toList_append,
      Text.untilClosing?_append hmeet, Option.or_eq_none_iff, Option.map_eq_none_iff]
  rw [← not_or] at hnone
  exact Decidable.not_iff_not.mp hnone

/-! ### The lines of a comment -/

/-- A text after `escapeComment` has no end of a comment in it, because the
star is spelled out and what takes its place neither ends with a star nor
starts with a slash. -/
theorem not_closes_escapeComment (text : String) : ¬ Closes (escapeComment text) := by
  rw [not_closes_iff, escapeComment, String.toList_ofList]
  exact Text.untilClosing?_replaceAll_closing (d := '(') (by rfl) (by decide) (by decide) (by rfl) _

/-- The inner lines of a documentation comment do not end it, whatever the
text is: it is escaped before its lines are marked, and neither step leaves
an end behind (`not_closes_escapeComment`,
`untilClosing?_replaceAll_newline`). -/
theorem not_closes_docLines (text : String) : ¬ Closes (docLines text) := by
  have hlines : untilClosing? (Text.replaceAll ['\n'] ('\n' :: " * ".toList)
      (escapeComment text).toList) = none :=
    Text.untilClosing?_replaceAll_newline (by decide) (by rfl)
      (not_closes_iff.mp (not_closes_escapeComment text))
  show ¬ Closes (" * " ++ String.ofList (Text.replaceAll ['\n'] ('\n' :: " * ".toList) _))
  rw [closes_append_iff (fun h => absurd h (by decide)),
    or_iff_right (show ¬ Closes " * " by decide), not_closes_iff, String.toList_ofList]
  exact hlines

/-- A tag of a table type ends the comment exactly if what it shows, one of
the `tableFacts`, holds the end. -/
theorem closes_tag_iff {t : TypeDef} {fact : String × String} (hfact : fact ∈ tableFacts t) :
    Closes (" * @" ++ fact.1 ++ " " ++ fact.2) ↔ Closes fact.2 := by
  have hlabel : ¬ Closes (" * @" ++ fact.1 ++ " ") ∧
      (" * @" ++ fact.1 ++ " ").toList.getLast? = some ' ' := by
    -- There are three names of facts, all of them plain words.
    simp only [tableFacts, List.mem_append, Option.mem_toList, Option.map_eq_some_iff,
      List.mem_singleton] at hfact
    rw [not_closes_iff]
    rcases hfact with (⟨_, _, rfl⟩ | rfl) | ⟨_, _, rfl⟩ <;> simp [untilClosing?, closing]
  rw [closes_append_iff (fun h => absurd (hlabel.2.symm.trans h) (by decide)),
    or_iff_right hlabel.1]

/-- The first line of the comment above an object schema. -/
def titleLine (name : String) : String :=
  " * Zod schema for the \"" ++ name ++ "\" interface"

/-- The `titleLine` of a type ends the comment exactly if the name holds the
end, since it is shown as it is. -/
theorem closes_titleLine_iff (name : String) : Closes (titleLine name) ↔ Closes name := by
  have hstart : ¬ Closes " * Zod schema for the \"" := by decide
  have hend : ¬ Closes "\" interface" := by decide
  have hquote : "\" interface".toList.head? ≠ some '/' := by decide
  calc Closes (titleLine name)
    _ ↔ Closes (" * Zod schema for the \"" ++ name) ∨ Closes "\" interface" :=
      closes_append_iff fun _ => hquote
    _ ↔ Closes (" * Zod schema for the \"" ++ name) := or_iff_left hend
    _ ↔ Closes " * Zod schema for the \"" ∨ Closes name := closes_append_iff (by simp)
    _ ↔ Closes name := or_iff_right hstart

/-- The characters of lines that `joinText` joins, first line first. -/
theorem toList_joinText_cons (line : String) {lines : List String} (hlines : lines ≠ []) :
    (joinText (line :: lines)).toList = line.toList ++ '\n' :: (joinText lines).toList := by
  rw [joinText_cons line hlines, String.toList_append, String.toList_append, List.append_assoc]
  rfl

/-- The first line that holds the end of a comment ends the comment. The
lines before it are passed over one by one with `untilClosing?_line`. -/
theorem untilClosing?_joinText {before after : List String} {line : String} {cut : List Char}
    (hbefore : ∀ l ∈ before, ¬ Closes l) (hline : untilClosing? line.toList = some cut) :
    untilClosing? (joinText (before ++ line :: after)).toList =
      some (joinText (before ++ [String.ofList cut])).toList := by
  -- By induction on the lines in front, which are passed over as a whole.
  induction before with
  | nil =>
    rw [List.nil_append, List.nil_append, joinText_singleton, String.toList_ofList]
    cases after with
    | nil => rw [joinText_singleton, hline]
    | cons next after =>
      rw [toList_joinText_cons line (List.cons_ne_nil _ _), Text.untilClosing?_line, hline,
        Option.some_or]
  | cons first before ih =>
    have hfirst := not_closes_iff.mp (hbefore first List.mem_cons_self)
    have hrest := ih fun l hl => hbefore l (List.mem_cons_of_mem _ hl)
    rw [List.cons_append, List.cons_append, toList_joinText_cons first (by simp),
      toList_joinText_cons first (by simp), Text.untilClosing?_line, hfirst, hrest]
    rfl

/-- A line that holds the end of a comment brings it into the joined lines,
wherever it stands among them. `Closes` asks for no more than an
occurrence. -/
theorem closes_joinText_of_mem {lines : List String} {line : String} (hline : line ∈ lines)
    (h : Closes line) : Closes (joinText lines) := by
  induction lines with
  | nil => cases hline
  | cons first lines ih =>
    cases lines with
    | nil =>
      rw [joinText_singleton]
      exact List.mem_singleton.mp hline ▸ h
    | cons next lines =>
      rw [Closes, toList_joinText_cons first (List.cons_ne_nil _ _)]
      rcases List.mem_cons.mp hline with rfl | hline
      · exact h.trans (List.prefix_append _ _).isInfix
      · have hrest : Closes (joinText (next :: lines)) := ih hline
        exact hrest.trans ((List.suffix_cons _ _).trans (List.suffix_append _ _)).isInfix

/-! ### The comment above a declaration -/

/-- The lines of the comment above an interface, up to the one that is
meant to close it. -/
def interfaceComment (t : TypeDef) : List String :=
  ["/**"] ++ ((present? t.description).map docLines).toList ++ tableTags t

/-- The lines of the comment above an object schema, up to the one that
is meant to close it. -/
def schemaComment (t : TypeDef) : List String :=
  ["/**", titleLine t.name] ++ tableTags t

/-- The text starts with the lines of a comment, then has the line that is
meant to close it and directly below a declaration; the comment ends
inside the first of these lines that holds the end of a comment. -/
structure CommentAbove (comment : List String) (declaration text : String) : Prop where
  laid_out : ∃ body, text = joinText comment ++ "\n */\n" ++ declaration ++ body
  ends_in : ∀ before line after cut, comment ++ [" */"] = before ++ line :: after →
    (∀ l ∈ before, ¬ Closes l) → untilClosing? line.toList = some cut →
      untilClosing? text.toList = some (joinText (before ++ [String.ofList cut])).toList

/-- The comment ends where it is meant to: in front of the first `*/` of
the text stand its lines and the blank of the closing line. -/
def ClosedBelow (comment : List String) (text : String) : Prop :=
  untilClosing? text.toList = some (joinText comment ++ "\n ").toList

/-- Only the lines up to the declaration decide where the comment ends. What
the declaration holds does not matter, as the closing line stands above it.
This is the form that `CommentAbove` asks for. -/
theorem commentAbove_joinText {comment : List String} (hcomment : comment ≠ [])
    (declaration name : String) (body : List String) :
    CommentAbove comment declaration
      (joinText (comment ++ " */" :: (declaration ++ name) :: body)) where
  laid_out := by
    obtain ⟨rest, hrest⟩ := exists_joinText_cons (declaration ++ name) body
    refine ⟨name ++ rest, ?_⟩
    rw [joinText_append hcomment (List.cons_ne_nil _ _),
      joinText_cons " */" (List.cons_ne_nil _ _), hrest]
    simp only [String.append_assoc]
    rfl
  ends_in := by
    intro before line after cut hlines hbefore hline
    -- The search stops in the comment or at its closing line, before the declaration.
    have hsplit : comment ++ " */" :: (declaration ++ name) :: body =
        before ++ line :: (after ++ (declaration ++ name) :: body) := by
      rw [← List.singleton_append, ← List.append_assoc, hlines, List.append_assoc, List.cons_append]
    rw [hsplit]
    exact untilClosing?_joinText hbefore hline

/-- The comment ends where it is meant to (`ClosedBelow`) exactly if none of
its lines holds the end of a comment. -/
theorem CommentAbove.closedBelow_iff {comment : List String} {declaration text : String}
    (h : CommentAbove comment declaration text) (hcomment : comment ≠ []) :
    ClosedBelow comment text ↔ ∀ line ∈ comment, ¬ Closes line := by
  have hblank : joinText (comment ++ [" "]) = joinText comment ++ "\n " := by
    rw [joinText_append hcomment (List.cons_ne_nil _ _), joinText_singleton, String.append_assoc]
    rfl
  constructor
  · -- In front of the first end there is none, so no line up to there holds one.
    intro hclosed line hline hcloses
    have hnone : ¬ Closes (joinText (comment ++ [" "])) := by
      rw [not_closes_iff, hblank]
      exact Text.untilClosing?_front hclosed
    exact hnone (closes_joinText_of_mem (List.mem_append_left _ hline) hcloses)
  · intro hlines
    rw [ClosedBelow, ← hblank]
    exact h.ends_in comment " */" [] [' '] rfl hlines (by decide)

/-- The tags of a table type end no comment exactly if what they show does
not, by `closes_tag_iff` for each. -/
theorem forall_tableTags_iff (t : TypeDef) :
    (∀ line ∈ tableTags t, ¬ Closes line) ↔ ∀ fact ∈ tableFacts t, ¬ Closes fact.2 := by
  rw [tableTags, List.forall_mem_map]
  exact forall₂_congr fun fact hfact => not_congr (closes_tag_iff hfact)

/-- The text of an interface is a comment and below it the declaration, as
`CommentAbove` describes. -/
theorem commentAbove_interfaceText (r : TypeRecord) :
    CommentAbove (interfaceComment r.typeDef) "export interface " (interfaceText r) := by
  have hlines : interfaceText r = joinText (interfaceComment r.typeDef ++ " */" ::
      ("export interface " ++ r.typeDef.name) ::
        ("\x7b" :: r.typeDef.props.flatMap interfaceProperty ++ ["\x7d"])) := by
    simp only [interfaceText, interfaceComment, List.append_assoc, List.cons_append,
      List.nil_append]
  rw [hlines]
  exact commentAbove_joinText (List.cons_ne_nil _ _) _ _ _

/-- The text of an object schema is a comment and below it the declaration,
as `CommentAbove` describes. -/
theorem commentAbove_objectSchema (r : TypeRecord) :
    CommentAbove (schemaComment r.typeDef) "export const " (objectSchema r) := by
  have hdeclaration : "export const " ++ schemaName r.typeDef.name ++ "=z.object(\x7b" =
      "export const " ++ (schemaName r.typeDef.name ++ "=z.object(\x7b") := String.append_assoc
  have hlines : objectSchema r = joinText (schemaComment r.typeDef ++ " */" ::
      ("export const " ++ (schemaName r.typeDef.name ++ "=z.object(\x7b")) ::
        (r.typeDef.props.map schemaProperty ++
          ["\x7d)" ++ describe r.typeDef.description ++ ";"])) := by
    unfold objectSchema schemaComment titleLine
    simp only [← hdeclaration, List.append_assoc, List.cons_append, List.nil_append]
  rw [hlines]
  exact commentAbove_joinText (List.cons_ne_nil _ _) _ _ _

/-- In the comment of an interface only the tags can hold an end, because
the description is escaped (`not_closes_docLines`). -/
theorem forall_interfaceComment_iff (t : TypeDef) :
    (∀ line ∈ interfaceComment t, ¬ Closes line) ↔ ∀ fact ∈ tableFacts t, ¬ Closes fact.2 := by
  have hopening : ¬ Closes "/**" := by decide
  have hdoc : ∀ line ∈ ((present? t.description).map docLines).toList, ¬ Closes line := by
    intro line hline
    obtain ⟨text, -, rfl⟩ := Option.map_eq_some_iff.mp (Option.mem_toList.mp hline)
    exact not_closes_docLines text
  rw [interfaceComment, List.forall_mem_append, List.forall_mem_append, List.forall_mem_singleton,
    forall_tableTags_iff]
  exact and_iff_right ⟨hopening, hdoc⟩

/-- In the comment of an object schema the name of the type can hold an end
as well (`closes_titleLine_iff`). -/
theorem forall_schemaComment_iff (t : TypeDef) :
    (∀ line ∈ schemaComment t, ¬ Closes line) ↔
      ¬ Closes t.name ∧ ∀ fact ∈ tableFacts t, ¬ Closes fact.2 := by
  have hopening : ¬ Closes "/**" := by decide
  rw [schemaComment, List.forall_mem_append, List.forall_mem_cons, List.forall_mem_singleton,
    closes_titleLine_iff, forall_tableTags_iff, and_iff_right hopening]

/-- Above the interface of a table type and above its object schema, the
line that is meant to close the comment closes it exactly if no name that
a tag shows holds the end of a comment, and in the second comment the name
of the type does not either. The description has no part in this, and
neither has anything below. -/
theorem closed_by_own_line_iff (r : TypeRecord) :
    CommentAbove (interfaceComment r.typeDef) "export interface " (interfaceText r) ∧
      (ClosedBelow (interfaceComment r.typeDef) (interfaceText r) ↔
        ∀ fact ∈ tableFacts r.typeDef, ¬ Closes fact.2) ∧
    CommentAbove (schemaComment r.typeDef) "export const " (objectSchema r) ∧
      (ClosedBelow (schemaComment r.typeDef) (objectSchema r) ↔
        ¬ Closes r.typeDef.name ∧ ∀ fact ∈ tableFacts r.typeDef, ¬ Closes fact.2) := by
  have hinterface := commentAbove_interfaceText r
  have hschema := commentAbove_objectSchema r
  refine ⟨hinterface, ?_, hschema, ?_⟩
  · rw [hinterface.closedBelow_iff (List.cons_ne_nil _ _), forall_interfaceComment_iff]
  · rw [hschema.closedBelow_iff (List.cons_ne_nil _ _), forall_schemaComment_iff]

/-- The type of a table `t` in a schema whose name ends a comment. -/
def starredSchema : TypeRecord where
  typeDef := { name := "T", kind := .table, sqlTable := some "t", sqlSchema := some "s*/" }
  baseName := "T"
  shape := .read

/-- The comment stops inside the tag of the schema, and the line that was
meant to close it is left over. -/
theorem closed_by_own_line_iff_starredSchema :
    ¬ ClosedBelow (interfaceComment starredSchema.typeDef) (interfaceText starredSchema) ∧
    untilClosing? (interfaceText starredSchema).toList =
      some "/**\n * @table t\n * @schema s".toList := by
  obtain ⟨habove, hclosed, -⟩ := closed_by_own_line_iff starredSchema
  have hfacts : tableFacts starredSchema.typeDef = [("table", "t"), ("schema", "s*/")] := by rfl
  -- The tag of the schema is the first line with an end in it.
  have hcomment : interfaceComment starredSchema.typeDef =
      ["/**", " * @table t", " * @schema s*/"] := by
    rw [interfaceComment, tableTags, hfacts]
    rfl
  constructor
  · rw [hclosed, hfacts]
    intro hplain
    exact hplain ("schema", "s*/") (by simp) (by decide)
  · have hstop := habove.ends_in ["/**", " * @table t"] " * @schema s*/" [" */"]
      " * @schema s".toList (by rw [hcomment]; rfl) (by decide) (by decide)
    rw [hstop]
    rfl

end SchemaTypes.Emit
