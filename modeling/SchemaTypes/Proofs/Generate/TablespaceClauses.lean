import Mathlib.Data.List.TakeWhile
import SchemaTypes.Generate.Source
import SchemaTypes.Proofs.Runs

/-!
# `SchemaTypes.Proofs.Generate.TablespaceClauses`: clauses that reach past a line

Tablespace clauses are found by their letters alone, and the blanks
between the word and the name may be line breaks. A line can therefore
break off inside a clause: it has the word and nothing but blanks behind
it (`breaksOff`). If the next line starts with a name, the two lines are
not treated apart: the word, the line break and the name are taken out
together, whether or not the first line is a comment.

`join_line_break_iff` shows that this is the only way: taking clauses out
of a text is taking them out of the lines one by one exactly if no line
that breaks off is followed by one that starts with a name. The same
holds of two fragments with a blank line between them
(`join_pair_iff`).

The step lemma is `clauseLength?_append_newline`: what stands behind a
line break decides whether a clause starts at a place only if the word of
the clause is open there.
-/

set_option autoImplicit false

namespace SchemaTypes.Source

/-- Whether a text is the word of a clause with nothing but blanks behind
it. -/
def isOpenClause (s : List Char) : Bool :=
  (afterWord? "TABLESPACE".toList s).any Text.allBlank

/-- Whether a text starts with a name, behind any blanks. -/
def startsWithName (s : List Char) : Bool :=
  (s.dropWhile Text.isBlank).head?.any Text.isWordChar

/-- Whether a text breaks off inside a clause. Behind the first characters
and outside of its clauses, it has the word of a clause and nothing but
blanks from there on. -/
def breaksOff : Nat → List Char → Bool
  | _, [] => false
  | skip + 1, _ :: rest => breaksOff skip rest
  | 0, c :: rest =>
    match clauseLength? (c :: rest) with
    | some (length + 1) => breaksOff length rest
    | _ => isOpenClause (c :: rest) || breaksOff 0 rest

/-- A text without any clause: none starts at any of its places. -/
def HasNoClause (s : List Char) : Prop :=
  ∀ rest, rest <:+ s → clauseLength? rest = none

/-! ## Where a clause ends -/

/-- What a clause takes behind its word: blanks and a name, at least one
character of each. -/
def nameEnd? (s : List Char) : Option Nat :=
  let blanks := s.takeWhile Text.isBlank
  let name := (s.dropWhile Text.isBlank).takeWhile Text.isWordChar
  if blanks.isEmpty || name.isEmpty then none else some (blanks.length + name.length)

/-- A clause is its word and what `nameEnd?` finds behind it, which tells
apart the two places where a line can break off. -/
theorem clauseLength?_eq (s : List Char) :
    clauseLength? s =
      (afterWord? "TABLESPACE".toList s).bind fun rest => (nameEnd? rest).map (10 + ·) := by
  have hlength : "TABLESPACE".toList.length = 10 := rfl
  cases hword : afterWord? "TABLESPACE".toList s with
  | none => simp only [clauseLength?, hword, Option.bind_none]
  | some rest =>
    simp only [clauseLength?, hword, nameEnd?, hlength, Proofs.drop_length_takeWhile,
      Option.bind_some, List.length_eq_zero_iff, List.isEmpty_iff, Bool.or_eq_true,
      decide_eq_true_eq]
    split
    · rfl
    · rw [Option.map_some, Nat.add_assoc]

/-- The word is found by `afterWord?` before a line break or not at all,
because it has none itself. The induction is on the letters of the word. -/
theorem afterWord?_append_newline {word : List Char}
    (hword : ∀ letter ∈ word, isLetter letter '\n' = false) (s t : List Char) :
    afterWord? word (s ++ '\n' :: t) = (afterWord? word s).map (· ++ '\n' :: t) := by
  induction word generalizing s with
  | nil => rfl
  | cons letter word ih =>
    obtain ⟨hletter, hrest⟩ := List.forall_mem_cons.mp hword
    cases s with
    | nil => simp [afterWord?, hletter]
    | cons c s =>
      simp only [List.cons_append, afterWord?]
      split
      · exact ih hrest s
      · rfl

/-- A word that `afterWord?` finds is taken off the front, and as many
characters as it has letters. -/
theorem exists_of_afterWord? {word s rest : List Char} (h : afterWord? word s = some rest) :
    ∃ front, s = front ++ rest ∧ front.length = word.length := by
  induction word generalizing s with
  | nil => exact ⟨[], Option.some.inj h, rfl⟩
  | cons letter word ih =>
    cases s with
    | nil => cases h
    | cons c s =>
      simp only [afterWord?] at h
      split at h
      · obtain ⟨front, rfl, hlength⟩ := ih h
        exact ⟨c :: front, rfl, by simp [hlength]⟩
      · cases h

/-- Blanks alone end in no name, so no clause ends there and `nameEnd?`
gives nothing. -/
theorem nameEnd?_of_allBlank {s : List Char} (hs : Text.allBlank s = true) :
    nameEnd? s = none := by
  have hnothing : s.dropWhile Text.isBlank = [] :=
    List.dropWhile_eq_nil_iff.mpr (List.all_eq_true.mp hs)
  simp [nameEnd?, hnothing]

/-- A name behind a line break ends a clause (`nameEnd?`) if only blanks
stand in front of the break. -/
theorem nameEnd?_append_newline_of_allBlank {s : List Char} (hs : Text.allBlank s = true)
    (t : List Char) :
    nameEnd? (s ++ '\n' :: t) =
      if startsWithName t then
        some (s.length + 1 + (t.takeWhile Text.isBlank).length +
          ((t.dropWhile Text.isBlank).takeWhile Text.isWordChar).length)
      else none := by
  have hnewline : Text.isBlank '\n' = true := rfl
  -- The blanks go on over the line break, as it is one itself.
  have hblanks : (s ++ '\n' :: t).takeWhile Text.isBlank =
      s ++ '\n' :: t.takeWhile Text.isBlank := by
    rw [List.takeWhile_append_of_pos (List.all_eq_true.mp hs), List.takeWhile_cons, hnewline]
    rfl
  have hrest : (s ++ '\n' :: t).dropWhile Text.isBlank = t.dropWhile Text.isBlank := by
    rw [List.dropWhile_append_of_pos (List.all_eq_true.mp hs), List.dropWhile_cons, hnewline]
    rfl
  unfold nameEnd? startsWithName
  rw [hblanks, hrest]
  cases hname : t.dropWhile Text.isBlank with
  | nil => simp
  | cons c rest =>
    cases hc : Text.isWordChar c <;> simp [hc]
    omega

/-- The end of a name in front of a line break is not moved by what stands
behind the break: both runs of `nameEnd?` end before it. -/
theorem nameEnd?_append_newline_of_not_allBlank {s : List Char}
    (hs : Text.allBlank s = false) (t : List Char) :
    nameEnd? (s ++ '\n' :: t) = nameEnd? s := by
  obtain ⟨c, hmem, hc⟩ := List.all_eq_false.mp hs
  have hnot : Text.isBlank c = false := Bool.eq_false_iff.mpr hc
  have hblanks : (s ++ '\n' :: t).takeWhile Text.isBlank = s.takeWhile Text.isBlank :=
    Proofs.takeWhile_append_of_mem hmem hnot _
  have hsome : ¬(s.dropWhile Text.isBlank).isEmpty = true := by
    rw [List.isEmpty_iff, List.dropWhile_eq_nil_iff]
    exact fun hall => hc (hall c hmem)
  have hrest : (s ++ '\n' :: t).dropWhile Text.isBlank =
      s.dropWhile Text.isBlank ++ '\n' :: t := by
    rw [List.dropWhile_append, if_neg hsome]
  unfold nameEnd?
  rw [hblanks, hrest, Proofs.takeWhile_append_cons (rfl : Text.isWordChar '\n' = false)]

/-- What stands behind a line break decides whether a clause starts at a
place only if the word of the clause is open there (`isOpenClause`). -/
theorem clauseLength?_append_newline (s t : List Char) :
    clauseLength? (s ++ '\n' :: t) =
      if isOpenClause s && startsWithName t then
        some (s.length + 1 + (t.takeWhile Text.isBlank).length +
          ((t.dropWhile Text.isBlank).takeWhile Text.isWordChar).length)
      else clauseLength? s := by
  have hletters : ∀ letter ∈ "TABLESPACE".toList, isLetter letter '\n' = false := by
    have hall : ("TABLESPACE".toList.all fun letter => !isLetter letter '\n') = true := by
      decide +kernel
    intro letter hletter
    simpa using List.all_eq_true.mp hall letter hletter
  rw [clauseLength?_eq, clauseLength?_eq, afterWord?_append_newline hletters]
  unfold isOpenClause
  cases hword : afterWord? "TABLESPACE".toList s with
  | none => rfl
  | some rest =>
    obtain ⟨front, rfl, hfront⟩ := exists_of_afterWord? hword
    have hten : front.length = 10 := hfront
    simp only [Option.map_some, Option.bind_some, Option.any_some]
    -- Behind the word there is something else than blanks, or the word is open.
    cases hblank : Text.allBlank rest with
    | false => simp [nameEnd?_append_newline_of_not_allBlank hblank]
    | true =>
      rw [nameEnd?_append_newline_of_allBlank hblank, nameEnd?_of_allBlank hblank]
      cases startsWithName t with
      | false => rfl
      | true =>
        simp [hten]
        omega

/-- No clause starts at an open word, as long as nothing follows
(`nameEnd?_of_allBlank`). -/
theorem clauseLength?_of_isOpenClause {s : List Char} (h : isOpenClause s = true) :
    clauseLength? s = none := by
  unfold isOpenClause at h
  rw [clauseLength?_eq]
  cases hword : afterWord? "TABLESPACE".toList s with
  | none => rfl
  | some rest =>
    rw [hword, Option.any_some] at h
    simp [nameEnd?_of_allBlank h]

/-- A clause has characters, and no more than the text. So `dropClauses`
always goes on behind one. -/
theorem clauseLength?_bounds {s : List Char} {n : Nat} (h : clauseLength? s = some n) :
    0 < n ∧ n ≤ s.length := by
  rw [clauseLength?_eq] at h
  obtain ⟨rest, hword, hrest⟩ := Option.bind_eq_some_iff.mp h
  obtain ⟨length, hlength, rfl⟩ := Option.map_eq_some_iff.mp hrest
  obtain ⟨front, rfl, hfront⟩ := exists_of_afterWord? hword
  have hten : front.length = 10 := hfront
  -- The blanks and the name are two runs, one behind the other.
  have hparts : length ≤ rest.length := by
    simp only [nameEnd?] at hlength
    split at hlength
    · cases hlength
    · obtain rfl := Option.some.inj hlength
      have hname := (List.takeWhile_prefix Text.isWordChar
        (l := rest.dropWhile Text.isBlank)).length_le
      have hsplit := congrArg List.length
        (List.takeWhile_append_dropWhile (p := Text.isBlank) (l := rest))
      rw [List.length_append] at hsplit
      omega
  rw [List.length_append]
  omega

/-! ## Texts without their clauses -/

/-- Characters that `dropClauses` is to skip are dropped. -/
theorem dropClauses_eq_drop (n : Nat) (s : List Char) :
    dropClauses n s = dropClauses 0 (s.drop n) := by
  induction n generalizing s with
  | zero => rfl
  | succ n ih =>
    cases s with
    | nil => rfl
    | cons c rest =>
      rw [dropClauses]
      exact ih rest

/-- A character at which no clause starts is kept by `dropClauses`. -/
theorem dropClauses_cons_of_none {c : Char} {rest : List Char}
    (h : clauseLength? (c :: rest) = none) :
    dropClauses 0 (c :: rest) = c :: dropClauses 0 rest := by
  rw [dropClauses, h]

/-- A clause at the front, as long as `clauseLength?` says, is taken out,
and the rest is looked through. -/
theorem dropClauses_of_clause {s : List Char} {n : Nat} (h : clauseLength? s = some n) :
    dropClauses 0 s = dropClauses 0 (s.drop n) := by
  obtain ⟨hpos, hle⟩ := clauseLength?_bounds h
  obtain ⟨m, rfl⟩ := Nat.exists_eq_add_of_lt hpos
  rw [Nat.zero_add] at h ⊢
  cases s with
  | nil => simp at hle
  | cons c rest =>
    rw [dropClauses, h]
    exact dropClauses_eq_drop m rest

/-- A text without a clause (`HasNoClause`) stays as it is, character by
character. -/
theorem dropClauses_of_hasNoClause {s : List Char} (h : HasNoClause s) :
    dropClauses 0 s = s := by
  induction s with
  | nil => rfl
  | cons c rest ih =>
    have hrest : HasNoClause rest :=
      fun part hpart => h part (hpart.trans (List.suffix_cons c rest))
    rw [dropClauses_cons_of_none (h _ List.suffix_rfl), ih hrest]

/-- Only two characters have this letter as their upper case, since
`Char.toUpper` moves small letters and nothing else. -/
theorem eq_of_toUpper_eq {c : Char} (h : c.toUpper = 'T') : c = 'T' ∨ c = 't' := by
  unfold Char.toUpper at h
  split at h
  case isTrue hlower =>
    right
    have hcode := Char.ext_iff.mp h
    dsimp only at hcode
    -- Upper case is a fixed distance away, which can be taken back.
    have hback := congrArg (· - ('A'.val - 'a'.val)) hcode
    simp only [UInt32.add_sub_cancel] at hback
    exact Char.ext (hback.trans (by decide))
  case isFalse => exact .inl h

/-- The first letter of the word of a clause may stand in a name, in upper
and in lower case (`eq_of_toUpper_eq`). -/
theorem isWordChar_of_isLetter {c : Char} (h : isLetter 'T' c = true) :
    Text.isWordChar c = true := by
  have hupper : c.toUpper = 'T' := by simpa [isLetter] using h
  rcases eq_of_toUpper_eq hupper with rfl | rfl
  · decide
  · decide

/-- No clause starts at a character that cannot stand in a name, because it
is not the first letter of the word (`isWordChar_of_isLetter`). -/
theorem clauseLength?_of_not_isWordChar {c : Char} (hc : Text.isWordChar c = false)
    (rest : List Char) : clauseLength? (c :: rest) = none := by
  have hletter : isLetter 'T' c = false :=
    Bool.eq_false_iff.mpr fun h => absurd (isWordChar_of_isLetter h) (by simp [hc])
  rw [clauseLength?_eq]
  show (afterWord? ('T' :: "ABLESPACE".toList) (c :: rest)).bind _ = none
  simp [afterWord?, hletter]

/-- Behind a clause there is no character that can stand in a name: the name
of the clause has taken them all, and `dropClauses` keeps what follows. -/
theorem head?_dropClauses_dropWhile (s : List Char) :
    ((dropClauses 0 (s.dropWhile Text.isWordChar)).head?.any Text.isWordChar) = false := by
  cases hrest : s.dropWhile Text.isWordChar with
  | nil => rfl
  | cons c rest =>
    have hc : Text.isWordChar c = false := by
      have hhead := List.head?_dropWhile_not Text.isWordChar s
      rw [hrest] at hhead
      simpa using hhead
    rw [dropClauses_cons_of_none (clauseLength?_of_not_isWordChar hc rest)]
    simp [hc]

/-- An open word starts with a letter that may stand in a name, as the word
of every clause does (`isWordChar_of_isLetter`). -/
theorem isWordChar_of_isOpenClause {c : Char} {rest : List Char}
    (h : isOpenClause (c :: rest) = true) : Text.isWordChar c = true := by
  refine isWordChar_of_isLetter ?_
  by_contra hletter
  have hnone : afterWord? "TABLESPACE".toList (c :: rest) = none := by
    show afterWord? ('T' :: "ABLESPACE".toList) (c :: rest) = none
    simp [afterWord?, hletter]
  rw [isOpenClause, hnone] at h
  cases h

/-- A clause that reaches past a line break is taken out by `dropClauses`
with everything up to the end of the name behind the break. -/
theorem dropClauses_of_open {s t : List Char} (hopen : isOpenClause s = true)
    (hname : startsWithName t = true) :
    dropClauses 0 (s ++ '\n' :: t) =
      dropClauses 0 ((t.dropWhile Text.isBlank).dropWhile Text.isWordChar) := by
  have hclause := clauseLength?_append_newline s t
  rw [hopen, hname, Bool.and_self, if_pos rfl] at hclause
  rw [dropClauses_of_clause hclause]
  congr 1
  rw [← List.drop_drop, ← List.drop_drop, List.append_cons, List.drop_left' (by simp),
    Proofs.drop_length_takeWhile, Proofs.drop_length_takeWhile]

/-- A clause that reaches past a line break changes what is kept. The word
of the clause would be kept otherwise, and what is kept in its place does
not start with a letter (`head?_dropClauses_dropWhile`). -/
theorem dropClauses_ne_of_open {c : Char} {rest t : List Char}
    (hopen : isOpenClause (c :: rest) = true) (hname : startsWithName t = true)
    (kept : List Char) : dropClauses 0 (c :: rest ++ '\n' :: t) ≠ c :: kept := by
  intro heq
  have hhead := head?_dropClauses_dropWhile (t.dropWhile Text.isBlank)
  rw [← dropClauses_of_open hopen hname, heq, List.head?_cons, Option.any_some,
    isWordChar_of_isOpenClause hopen] at hhead
  cases hhead

/-- Clauses are taken out of two lines one by one exactly if no clause
reaches from the first into the second, that is, if not both `breaksOff` and
`startsWithName` hold. -/
theorem dropClauses_append_newline_iff (skip : Nat) (s t : List Char)
    (hskip : skip ≤ s.length) :
    dropClauses skip (s ++ '\n' :: t) = dropClauses skip s ++ '\n' :: dropClauses 0 t ↔
      ¬(breaksOff skip s = true ∧ startsWithName t = true) := by
  -- The induction goes along the places at which a clause is looked for.
  induction skip, s using breaksOff.induct with
  | case1 skip =>
    obtain rfl : skip = 0 := Nat.le_zero.mp hskip
    have hnone : clauseLength? ('\n' :: t) = none := clauseLength?_append_newline [] t
    simp [breaksOff, dropClauses, dropClauses_cons_of_none hnone]
  | case2 skip c rest ih =>
    rw [List.cons_append, dropClauses, dropClauses, breaksOff]
    exact ih (Nat.le_of_succ_le_succ hskip)
  | case3 c rest length hclause ih =>
    -- A clause of the line is one with the break behind it, as it is closed.
    have hle : length ≤ rest.length := Nat.le_of_succ_le_succ (clauseLength?_bounds hclause).2
    have hclosed : isOpenClause (c :: rest) = false := by
      refine Bool.eq_false_iff.mpr fun hopen => ?_
      rw [clauseLength?_of_isOpenClause hopen] at hclause
      cases hclause
    have hclause' : clauseLength? (c :: (rest ++ '\n' :: t)) = some (length + 1) := by
      have hstep := clauseLength?_append_newline (c :: rest) t
      rw [hclosed, hclause] at hstep
      exact hstep
    rw [List.cons_append, dropClauses, hclause', dropClauses, hclause, breaksOff, hclause]
    exact ih hle
  | case4 c rest hno ih =>
    have hnone : clauseLength? (c :: rest) = none := by
      refine Option.eq_none_iff_forall_ne_some.mpr fun n hn => ?_
      obtain ⟨m, rfl⟩ := Nat.exists_eq_add_of_lt (clauseLength?_bounds hn).1
      exact hno m (by rw [hn, Nat.zero_add])
    have hbreaks : breaksOff 0 (c :: rest) = (isOpenClause (c :: rest) || breaksOff 0 rest) := by
      rw [breaksOff, hnone]
    rw [dropClauses_cons_of_none hnone, List.cons_append, hbreaks]
    by_cases hreach : isOpenClause (c :: rest) = true ∧ startsWithName t = true
    · -- The clause starts here, and the letter in front of us is lost.
      obtain ⟨hopen, hname⟩ := hreach
      refine iff_of_false (dropClauses_ne_of_open hopen hname _) ?_
      simp [hopen, hname]
    · have hstep : clauseLength? (c :: (rest ++ '\n' :: t)) = none := by
        rw [← Bool.and_eq_true] at hreach
        rw [← hnone]
        exact (clauseLength?_append_newline (c :: rest) t).trans (if_neg hreach)
      rw [dropClauses_cons_of_none hstep, List.cons_append, List.cons.injEq, ih (Nat.zero_le _)]
      cases hname : startsWithName t with
      | false => simp
      | true =>
        have hclosed : isOpenClause (c :: rest) = false :=
          Bool.eq_false_iff.mpr fun hopen => hreach ⟨hopen, hname⟩
        simp [hclosed]

/-- The text of a single fragment is the fragment without its clauses, as
`dropClauses` leaves it. -/
theorem join_singleton (text : String) :
    join [text] = String.ofList (dropClauses 0 text.toList) := by
  simp [join, Text.joinWith]

/-- **Clauses and line breaks.** Take a line, such as a comment, and the
text behind it. Clauses are taken out of the two apart exactly if the
line does not break off inside a clause or the text does not start with a
name. If so, a text without a clause of its own is kept as it is. -/
theorem join_line_break_iff (line text : String) :
    (join [line ++ "\n" ++ text] = join [line] ++ "\n" ++ join [text] ↔
      ¬(breaksOff 0 line.toList = true ∧ startsWithName text.toList = true)) ∧
    (¬(breaksOff 0 line.toList = true ∧ startsWithName text.toList = true) →
      HasNoClause text.toList → join [line ++ "\n" ++ text] = join [line] ++ "\n" ++ text) := by
  have hiff : join [line ++ "\n" ++ text] = join [line] ++ "\n" ++ join [text] ↔
      ¬(breaksOff 0 line.toList = true ∧ startsWithName text.toList = true) := by
    rw [← dropClauses_append_newline_iff 0 line.toList text.toList (Nat.zero_le _)]
    simp [join_singleton, ← String.toList_inj]
  refine ⟨hiff, fun hapart hno => ?_⟩
  have htext : join [text] = text := by
    rw [join_singleton, dropClauses_of_hasNoClause hno, String.ofList_toList]
  rw [hiff.mpr hapart, htext]

example : join ["-- the default tablespace\ncreate table t (a int);"] =
    "-- the default  table t (a int);" := by decide

/-- The text of two fragments is that of both with an empty line between
them, without the clauses that `dropClauses` finds there. -/
theorem join_pair (first second : String) :
    join [first, second] =
      String.ofList (dropClauses 0 (first.toList ++ '\n' :: '\n' :: second.toList)) := by
  simp [join, Text.joinWith, separator]

/-- Clauses are taken out of two fragments apart by `join` exactly if the
first does not break off inside a clause or the second does not start with a
name. -/
theorem join_pair_iff (first second : String) :
    join [first, second] = join [first] ++ separator ++ join [second] ↔
      ¬(breaksOff 0 first.toList = true ∧ startsWithName second.toList = true) := by
  -- A fragment starts with a name exactly if it does so behind an empty line.
  have hname : startsWithName ('\n' :: second.toList) = startsWithName second.toList := rfl
  have hnone : clauseLength? ('\n' :: second.toList) = none :=
    clauseLength?_append_newline [] second.toList
  rw [← hname, ← dropClauses_append_newline_iff 0 first.toList _ (Nat.zero_le _), join_pair,
    join_singleton, join_singleton, dropClauses_cons_of_none hnone, ← String.toList_inj]
  simp [separator]

end SchemaTypes.Source
