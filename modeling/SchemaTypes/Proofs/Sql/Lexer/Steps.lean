import SchemaTypes.Proofs.Sql.Lexer.Scanning
import SchemaTypes.Proofs.Sql.Shift

/-!
# `SchemaTypes.Proofs.Sql.Lexer.Steps`: one step through a text

The lexer goes through a text in steps. `step` is one of them: it takes a
gap, a token, or a command word with the text of its command, and
`readTokens_succ` shows that the lexer does nothing else. Three facts about
it are what the statements about whole texts need. A step goes forward
(`step_pos`). A step further on in a source takes the same tokens further
on (`step_shift`). And a step takes the same when more lines follow, if
the statement that it is part of ends in the text (`step_append`).

Commands are the reason why the last one is about steps and not about
tokens. After a command word the lexer reads up to a semicolon or to the
end of the text, so the text of a command that no semicolon ends would go
on into what follows.
-/

set_option autoImplicit false

namespace SchemaTypes.Sql.Lexer

/-! ## Commands -/

/-- The next piece of a command: whether the sign of a parameter was read,
how far behind the start of the piece the command is marked, and the width
of the piece. -/
def commandPiece (quotes : Quotes) (ofParameter : Bool) (s : List Char) :
    Except Int (Bool × Nat × Nat) :=
  let spaces := (s.takeWhile fun c => c == ' ' || c == '\t').length
  if 0 < spaces then .ok (ofParameter, spaces, spaces)
  else
    match scan quotes ofParameter s with
    | .token kind text width => .ok (signsParameter kind text, 0, width)
    | .gap width => .ok (ofParameter, 0, width)
    | .failure beyond => .error beyond

/-- One turn of the loop of `readCommand` with its piece taken out as
`commandPiece`: the reading ends when the piece does not fit or when a
semicolon follows it, and goes on behind the piece otherwise. The other
lemmas about commands unfold the loop by this equation only. -/
theorem readCommand_succ (quotes : Quotes) (fuel : Nat) (ofParameter : Bool)
    (mark position : Nat) {s : List Char} (hs : s ≠ []) :
    readCommand quotes (fuel + 1) ofParameter mark position s =
      match commandPiece quotes ofParameter s with
      | .error beyond => .error beyond
      | .ok (ofParameter, offset, width) =>
        if (s.drop width).head? == some ';' then .ok (position + offset, position + width)
        else
          readCommand quotes fuel ofParameter (position + offset) (position + width)
            (s.drop width) := by
  have hempty : s.isEmpty = false := List.isEmpty_eq_false_iff.mpr hs
  simp only [readCommand, hempty, commandPiece, Bool.false_eq_true, if_false]
  split
  · rfl
  · cases scan quotes ofParameter s <;> rfl

/-- A piece takes at least one character, so the reading of a command goes
forward and ends within as many turns as there are characters. The width is
that of the blanks, or it is positive by `fits_scan`. -/
theorem commandPiece_pos {quotes : Quotes} (hquotes : Lawful quotes)
    {ofParameter : Bool} {s : List Char} (hs : s ≠ []) {piece : Bool × Nat × Nat}
    (h : commandPiece quotes ofParameter s = .ok piece) : 0 < piece.2.2 := by
  obtain ⟨c, s, rfl⟩ := List.exists_cons_of_ne_nil hs
  have hfits := fits_scan hquotes ofParameter c s
  unfold commandPiece at h
  dsimp only at h
  -- Spaces were found, or else what stands there takes a character.
  split at h
  · rename_i hspaces
    cases h
    exact hspaces
  · split at h
    · rename_i hscan
      cases h
      rw [hscan] at hfits
      exact hfits.1
    · rename_i hscan
      cases h
      rw [hscan] at hfits
      exact hfits
    · cases h

/-- A piece in front of a semicolon is the same whatever follows the line.
It is a run of blanks, which a line break ends, or what `scan_append` is
about; a dollar sign is excluded since it could open a string that goes
on. -/
theorem commandPiece_append {quotes : Quotes}
    (hquotes : Lawful quotes) {ofParameter : Bool} {s : List Char}
    (hs : ';' ∈ s) (hdollar : '$' ∉ s ∨ quotes.dollars = false) {piece : Bool × Nat × Nat}
    (h : commandPiece quotes ofParameter s = .ok piece) (v : List Char) :
    commandPiece quotes ofParameter (s ++ '\n' :: v) = .ok piece ∧ piece.2.2 ≤ s.length := by
  obtain ⟨c, s, rfl⟩ := List.exists_cons_of_ne_nil (List.ne_nil_of_mem hs)
  have hspaces : ((c :: s ++ '\n' :: v).takeWhile fun c => c == ' ' || c == '\t') =
      (c :: s).takeWhile fun c => c == ' ' || c == '\t' :=
    Proofs.takeWhile_append_cons (by decide) (c :: s) v
  have hdollar : c ≠ '$' ∨ quotes.dollars = false :=
    hdollar.imp_left fun h => Ne.symm (List.ne_of_not_mem_cons h)
  unfold commandPiece at h ⊢
  rw [hspaces]
  dsimp only at h ⊢
  split at h
  · rename_i hpos
    cases h
    rw [if_pos hpos]
    exact ⟨rfl, (List.takeWhile_prefix _).length_le⟩
  · rename_i hzero
    rw [if_neg hzero]
    have hfails : (scan quotes ofParameter (c :: s)).fails = false := by
      cases hscan : scan quotes ofParameter (c :: s) with
      | failure beyond =>
        rw [hscan] at h
        cases h
      | _ => rfl
    -- A semicolon ahead is the second of the two ways in which `scan_append` can be used.
    obtain ⟨happend, hwidth⟩ := scan_append hquotes ofParameter hdollar hfails (.inl hs) v
    rw [happend]
    refine ⟨h, ?_⟩
    cases hscan : scan quotes ofParameter (c :: s) with
    | failure beyond =>
      rw [hscan] at h
      cases h
    | _ =>
      rw [hscan] at h hwidth
      cases h
      exact hwidth

/-- A command, as `readCommand` reads it, goes on to a semicolon or to the
end of the text. Stated with the end that was found: it is not behind the
start, and if it is not the end of the text, a semicolon stands there. -/
theorem readCommand_stop {quotes : Quotes} (hquotes : Lawful quotes)
    {fuel : Nat} {ofParameter : Bool} {mark position : Nat} {s : List Char}
    (hfuel : s.length ≤ fuel) {ends : Nat × Nat}
    (h : readCommand quotes fuel ofParameter mark position s = .ok ends) :
    position ≤ ends.2 ∧
      (ends.2 < position + s.length → (s.drop (ends.2 - position)).head? = some ';') := by
  induction fuel generalizing ofParameter mark position s with
  | zero =>
    cases h
    exact ⟨Nat.le_refl _, fun hlt => absurd hlt (by dsimp only; omega)⟩
  | succ fuel ih =>
    by_cases hs : s = []
    · subst hs
      cases h
      exact ⟨Nat.le_refl _, fun hlt => absurd hlt (by simp)⟩
    rw [readCommand_succ _ _ _ _ _ hs] at h
    cases hpiece : commandPiece quotes ofParameter s with
    | error beyond =>
      rw [hpiece] at h
      cases h
    | ok piece =>
      obtain ⟨ofParameter', offset, width⟩ := piece
      have hpos : 0 < width := commandPiece_pos hquotes hs hpiece
      simp only [hpiece] at h
      split at h
      · rename_i hsemicolon
        cases h
        rw [Nat.add_sub_cancel_left]
        exact ⟨Nat.le_add_right _ _, fun _ => eq_of_beq hsemicolon⟩
      · -- The end is that of the rest, of which the start is `width` further on.
        have hlength := List.length_drop (i := width) (l := s)
        obtain ⟨hle, hstop⟩ := ih (by omega) h
        refine ⟨by omega, fun hlt => ?_⟩
        have hdrop := hstop (by omega)
        rw [List.drop_drop] at hdrop
        rw [← hdrop]
        congr 2
        omega

/-- A line break is no semicolon, so whether a text starts with one does not
depend on what follows its last line. Both `readCommand` and `opensCommand`
ask for this. -/
theorem startsWithSemicolon_append (s v : List Char) :
    ((s ++ '\n' :: v).head? == some ';') = (s.head? == some ';') := by
  cases s <;> rfl

/-- A command that ends at a semicolon ends there whatever follows. The
hypothesis `hends` says that it does not end at the end of the text, where
`readCommand` would stop without a semicolon. -/
theorem readCommand_append {quotes : Quotes}
    (hquotes : Lawful quotes) {fuel fuel' : Nat}
    (hfuel' : fuel ≤ fuel') {ofParameter : Bool} {mark position : Nat} {s : List Char}
    (hfuel : s.length ≤ fuel) (hdollar : '$' ∉ s ∨ quotes.dollars = false) {ends : Nat × Nat}
    (h : readCommand quotes fuel ofParameter mark position s = .ok ends)
    (hends : ends.2 < position + s.length) (v : List Char) :
    readCommand quotes fuel' ofParameter mark position (s ++ '\n' :: v) = .ok ends := by
  induction fuel generalizing fuel' ofParameter mark position s with
  | zero =>
    cases h
    exact absurd hends (by dsimp only; omega)
  | succ fuel ih =>
    obtain ⟨fuel', rfl⟩ : ∃ k, fuel' = k + 1 := ⟨fuel' - 1, by omega⟩
    obtain ⟨hle, hstop⟩ := readCommand_stop hquotes hfuel h
    -- By `readCommand_stop` there is a semicolon ahead, so every piece on the way stays as it
    -- is.
    have hmem : ';' ∈ s := List.mem_of_mem_drop (List.mem_of_mem_head? (hstop hends))
    have hs : s ≠ [] := List.ne_nil_of_mem hmem
    rw [readCommand_succ _ _ _ _ _ hs] at h
    rw [readCommand_succ _ _ _ _ _ (by simp)]
    cases hpiece : commandPiece quotes ofParameter s with
    | error beyond =>
      rw [hpiece] at h
      cases h
    | ok piece =>
      obtain ⟨ofParameter', offset, width⟩ := piece
      obtain ⟨happend, hwidth⟩ := commandPiece_append hquotes hmem hdollar hpiece v
      have hpos : 0 < width := commandPiece_pos hquotes hs hpiece
      have hlength := List.length_drop (i := width) (l := s)
      simp only [hpiece] at h
      simp only [happend, List.drop_append_of_le_length hwidth, startsWithSemicolon_append]
      split at h
      · rename_i hsemicolon
        rw [if_pos hsemicolon]
        exact h
      · rename_i hsemicolon
        rw [if_neg hsemicolon]
        have hdollar : '$' ∉ s.drop width ∨ quotes.dollars = false :=
          hdollar.imp_left (mt List.mem_of_mem_drop)
        exact ih (by omega) (by omega) hdollar h (by omega)

/-- A command further on in the source has its mark and its end further on
by as much. Only positions are added up in `readCommand`: what a piece is
does not depend on where it stands. -/
theorem readCommand_shift (quotes : Quotes) (n fuel : Nat) (ofParameter : Bool)
    (mark position : Nat) (s : List Char) :
    readCommand quotes fuel ofParameter (mark + n) (position + n) s =
      (readCommand quotes fuel ofParameter mark position s).map
        fun ends => (ends.1 + n, ends.2 + n) := by
  induction fuel generalizing ofParameter mark position s with
  | zero => rfl
  | succ fuel ih =>
    by_cases hs : s = []
    · subst hs
      rfl
    -- The next piece is the same, and the positions behind it are moved alike.
    rw [readCommand_succ _ _ _ _ _ hs, readCommand_succ _ _ _ _ _ hs]
    cases commandPiece quotes ofParameter s with
    | error beyond => rfl
    | ok piece =>
      obtain ⟨ofParameter', offset, width⟩ := piece
      simp only [Nat.add_right_comm position n]
      split
      · rfl
      · exact ih ..

/-! ## Steps -/

/-- Whether a token in front makes a number the number of a parameter. -/
def followsSign (before : Option Token) : Bool :=
  before.any fun token => signsParameter token.kind token.text.toList

/-- Whether a token opens a command: a command word at the start of a
statement that does not end with it. -/
def opensCommand (before : Option Token) (token : Token) (rest : List Char) : Bool :=
  startsStatement before && token.kind == .word &&
    commandWords.contains (Text.upper token.text) && rest.head? != some ';'

/-- The tokens that are taken at once, and the width of what they were
read from: none for a gap, and two for a command. -/
def step (quotes : Quotes) (before : Option Token) (position : Nat) (s : List Char) :
    Except Int (List Token × Nat) :=
  match scan quotes (followsSign before) s with
  | .failure beyond => .error beyond
  | .gap width => .ok ([], width)
  | .token kind text width =>
    let next := position + width
    let rest := s.drop width
    let token : Token := ⟨kind, String.ofList text, position, next - 1⟩
    if opensCommand before token rest then
      (readCommand quotes rest.length false position next rest).map fun ends =>
        let body := Text.trim (rest.take (ends.2 - next))
        let command : Token := ⟨.text, String.ofList body, ends.1, ends.2 - 1⟩
        (token :: if body.isEmpty then [] else [command], ends.2 - position)
    else .ok ([token], width)

/-- One turn of the loop of `readTokens` is one `step`, after which the last
token that was taken is the one in front of the rest. `readTokens_eq_ok_iff`
turns the loop into the relation `Lexes` with it. -/
theorem readTokens_succ {quotes : Quotes} (hquotes : Lawful quotes)
    (fuel : Nat) (before : Option Token) (position : Nat) {s : List Char} (hs : s ≠ []) :
    readTokens quotes (fuel + 1) before position s =
      match step quotes before position s with
      | .error beyond => .error beyond
      | .ok (taken, width) =>
        (readTokens quotes fuel (taken.getLast?.or before) (position + width)
          (s.drop width)).map (taken ++ ·) := by
  have hempty : s.isEmpty = false := List.isEmpty_eq_false_iff.mpr hs
  have hsign : (before.any fun token => signsParameter token.kind token.text.toList) =
      followsSign before := rfl
  -- The loop puts tokens in front in a `do` block and the statement maps the outcome.
  have hmap : ∀ (taken : List Token) (outcome : Except Int (List Token)),
      outcome.map (taken ++ ·) = (do return taken ++ (← outcome)) := by
    intro taken outcome
    cases outcome <;> rfl
  simp only [readTokens, hempty, step, Bool.false_eq_true, if_false, hsign]
  cases hscan : scan quotes (followsSign before) s with
  | failure beyond => rfl
  | gap width =>
    have hbefore : ([] : List Token).getLast?.or before = before := rfl
    dsimp only
    rw [hmap, hbefore]
    cases readTokens quotes fuel before (position + width) (s.drop width) <;> rfl
  | token kind text width =>
    dsimp only
    have hopens : (startsStatement before && kind == .word &&
          commandWords.contains (Text.upper (String.ofList text)) &&
          (s.drop width).head? != some ';') =
        opensCommand before ⟨kind, String.ofList text, position, position + width - 1⟩
          (s.drop width) := rfl
    rw [hopens]
    split
    · cases hread : readCommand quotes (s.drop width).length false position (position + width)
        (s.drop width) with
      | error beyond => rfl
      | ok ends =>
        -- The loop goes on from the end of the command, `step` counts its width from the
        -- word on.
        obtain ⟨hle, -⟩ := readCommand_stop hquotes (Nat.le_refl _) hread
        obtain ⟨mark, stop⟩ := ends
        dsimp only at hle
        have hposition : position + (stop - position) = stop := by omega
        have hafter : (s.drop width).drop (stop - (position + width)) =
            s.drop (stop - position) := by
          rw [List.drop_drop]
          congr 1
          omega
        simp only [Except.map, hposition]
        show (if _ then _ else _) = _
        rw [hafter]
        split
        · rfl
        · rfl
    · dsimp only
      rw [hmap]
      rfl

/-- A step takes a gap, a token or a command. What holds of every step is
shown for these three, and `step` itself is unfolded nowhere else but for
`step_shift`. -/
theorem step_cases {quotes : Quotes} {before : Option Token} {position : Nat} {s : List Char}
    {taken : List Token} {width : Nat} (h : step quotes before position s = .ok (taken, width)) :
    (scan quotes (followsSign before) s = .gap width ∧ taken = []) ∨
    (∃ kind text, scan quotes (followsSign before) s = .token kind text width ∧
      opensCommand before ⟨kind, String.ofList text, position, position + width - 1⟩
        (s.drop width) = false ∧
      taken = [⟨kind, String.ofList text, position, position + width - 1⟩]) ∨
    (∃ kind text width' mark stop,
      scan quotes (followsSign before) s = .token kind text width' ∧
      opensCommand before ⟨kind, String.ofList text, position, position + width' - 1⟩
        (s.drop width') = true ∧
      readCommand quotes (s.drop width').length false position (position + width')
        (s.drop width') = .ok (mark, stop) ∧
      width = stop - position ∧ taken ≠ [] ∧ ∀ token ∈ taken, token.isSemicolon = false) := by
  unfold step at h
  cases hscan : scan quotes (followsSign before) s with
  | failure beyond =>
    rw [hscan] at h
    cases h
  | gap width' =>
    rw [hscan] at h
    cases h
    exact .inl ⟨rfl, rfl⟩
  | token kind text width' =>
    rw [hscan] at h
    dsimp only at h
    split at h
    · rename_i hopens
      obtain ⟨⟨mark, stop⟩, hread, hends⟩ := Proofs.map_eq_ok_iff.mp h
      cases hends
      refine .inr (.inr ⟨kind, text, width', mark, stop, rfl, hopens, hread, rfl, nofun, ?_⟩)
      -- The first token of a command is a word, and the other one is a text.
      have hword : (kind == .word) = true := by
        simp only [opensCommand, Bool.and_eq_true] at hopens
        exact hopens.1.1.2
      refine List.forall_mem_cons.mpr ⟨?_, ?_⟩
      · cases eq_of_beq hword
        rfl
      · split
        · exact nofun
        · exact List.forall_mem_singleton.mpr rfl
    · rename_i hopens
      cases h
      exact .inr (.inl ⟨kind, text, rfl, Bool.eq_false_iff.mpr hopens, rfl⟩)

/-- A step goes forward. This bounds the number of steps by the length of
the text, which is why `readTokens` never runs out of its fuel. -/
theorem step_pos {quotes : Quotes} (hquotes : Lawful quotes)
    {before : Option Token} {position : Nat} {s : List Char} (hs : s ≠ [])
    {taken : List Token} {width : Nat} (h : step quotes before position s = .ok (taken, width)) :
    0 < width := by
  obtain ⟨c, t, rfl⟩ := List.exists_cons_of_ne_nil hs
  have hfits := fits_scan hquotes (followsSign before) c t
  rcases step_cases h with ⟨hscan, -⟩ | ⟨kind, text, hscan, -⟩ |
    ⟨kind, text, width', mark, stop, hscan, -, hread, rfl, -⟩
  · rw [hscan] at hfits
    exact hfits
  · rw [hscan] at hfits
    exact hfits.1
  · rw [hscan] at hfits
    have hle := (readCommand_stop hquotes (Nat.le_refl _) hread).1
    have hpos := hfits.1
    dsimp only at hle
    omega

/-- A semicolon among the tokens is read from a semicolon in the text. A
single token of this kind is read from one by `fits_scan`, and neither the
word of a command nor its text is of this kind. -/
theorem semicolon_mem_of_step {quotes : Quotes}
    (hquotes : Lawful quotes) {before : Option Token}
    {position : Nat} {s : List Char} (hs : s ≠ []) {taken : List Token} {width : Nat}
    (h : step quotes before position s = .ok (taken, width)) {token : Token}
    (htoken : token ∈ taken) (hsemicolon : token.isSemicolon = true) : ';' ∈ s := by
  obtain ⟨c, t, rfl⟩ := List.exists_cons_of_ne_nil hs
  have hfits := fits_scan hquotes (followsSign before) c t
  rcases step_cases h with ⟨-, rfl⟩ | ⟨kind, text, hscan, -, rfl⟩ |
    ⟨kind, text, width', mark, stop, -, -, -, -, -, hno⟩
  · nomatch htoken
  · cases List.mem_singleton.mp htoken
    rw [hscan] at hfits
    rw [hfits.2 (eq_of_beq hsemicolon)]
    exact List.mem_cons_self
  · rw [hno token htoken] at hsemicolon
    cases hsemicolon

/-- A word opens a command whatever follows the line, since only the next
character counts and a line break is no semicolon
(`startsWithSemicolon_append`). -/
theorem opensCommand_append (before : Option Token) (token : Token) (rest v : List Char) :
    opensCommand before token (rest ++ '\n' :: v) = opensCommand before token rest := by
  simp only [opensCommand, bne, startsWithSemicolon_append]

/-- What `step` takes off the front of a text is the same however the text
goes on after a line break, if the statement at its front ends in it. -/
theorem step_append {quotes : Quotes} (hquotes : Lawful quotes)
    {before : Option Token} {position : Nat} {s : List Char} (hs : s ≠ [])
    (hdollar : '$' ∉ s ∨ quotes.dollars = false) {taken : List Token} {width : Nat}
    (h : step quotes before position s = .ok (taken, width))
    (hends : taken.getLast?.all Token.isSemicolon = true ∨ ';' ∈ s.drop width) (v : List Char) :
    step quotes before position (s ++ '\n' :: v) = .ok (taken, width) ∧ width ≤ s.length := by
  have hmem : taken ≠ [] → ';' ∈ s := by
    intro htaken
    rcases hends with hlast | hbehind
    · rw [List.getLast?_eq_some_getLast htaken] at hlast
      exact semicolon_mem_of_step hquotes hs h (List.getLast_mem htaken) hlast
    · exact List.mem_of_mem_drop hbehind
  obtain ⟨c, t, rfl⟩ := List.exists_cons_of_ne_nil hs
  have hdollar' : c ≠ '$' ∨ quotes.dollars = false :=
    hdollar.imp_left fun h => Ne.symm (List.ne_of_not_mem_cons h)
  have hscanned := scan_append (s := t) hquotes (followsSign before) hdollar'
  rcases step_cases h with ⟨hscan, rfl⟩ | ⟨kind, text, hscan, hopens, rfl⟩ |
    ⟨kind, text, width', mark, stop, hscan, hopens, hread, rfl, hne, hno⟩
  · obtain ⟨happend, hwidth⟩ := hscanned (by rw [hscan]; rfl) (.inr ⟨width, hscan⟩) v
    rw [hscan] at happend hwidth
    refine ⟨?_, hwidth⟩
    simp only [step, happend]
  · obtain ⟨happend, hwidth⟩ := hscanned (by rw [hscan]; rfl) (.inl (hmem nofun)) v
    rw [hscan] at happend hwidth
    have hdrop : (c :: t ++ '\n' :: v).drop width = (c :: t).drop width ++ '\n' :: v :=
      List.drop_append_of_le_length hwidth
    refine ⟨?_, hwidth⟩
    simp only [step, happend, hdrop, opensCommand_append, hopens, Bool.false_eq_true, if_false]
  · obtain ⟨happend, hwidth⟩ := hscanned (by rw [hscan]; rfl) (.inl (hmem hne)) v
    rw [hscan] at happend hwidth
    have hdrop : (c :: t ++ '\n' :: v).drop width' = (c :: t).drop width' ++ '\n' :: v :=
      List.drop_append_of_le_length hwidth
    -- The last token is no semicolon, so one is left behind the command.
    have hbehind : ';' ∈ (c :: t).drop (stop - position) := by
      refine hends.resolve_left ?_
      rw [List.getLast?_eq_some_getLast hne]
      simp [hno _ (List.getLast_mem hne)]
    have hlt : stop - position < (c :: t).length := by
      have := List.length_pos_of_mem hbehind
      rw [List.length_drop] at this
      omega
    obtain ⟨hle, -⟩ := readCommand_stop hquotes (Nat.le_refl _) hread
    dsimp only at hle
    have hlength := List.length_drop (i := width') (l := c :: t)
    have hfuel : ((c :: t).drop width').length ≤ ((c :: t).drop width' ++ '\n' :: v).length := by
      simp
    have hcommand := readCommand_append hquotes hfuel (Nat.le_refl _)
      (hdollar.imp_left (mt List.mem_of_mem_drop)) hread
      (by simp only [Found.width] at hwidth; dsimp only; omega) v
    have htake : ((c :: t).drop width' ++ '\n' :: v).take (stop - (position + width')) =
        ((c :: t).drop width').take (stop - (position + width')) :=
      List.take_append_of_le_length (by omega)
    refine ⟨?_, Nat.le_of_lt hlt⟩
    rw [← h]
    simp only [step, happend, hscan, hdrop, opensCommand_append, hopens, hcommand, hread,
      if_true, Except.map, htake]

/-- Tokens that have the same influence on what follows them. -/
def SameRole (before before' : Option Token) : Prop :=
  startsStatement before = startsStatement before' ∧ followsSign before = followsSign before'

/-- A step further on in the source takes the same tokens, further on, if
the tokens in front have the same role. `Lexes.shift` repeats this for a
whole run. -/
theorem step_shift {quotes : Quotes} (hquotes : Lawful quotes)
    (n : Nat) {before before' : Option Token} (hrole : SameRole before before') (position : Nat)
    {s : List Char} (hs : s ≠ []) :
    step quotes before' (position + n) s =
      (step quotes before position s).map fun taken =>
        (taken.1.map (Token.shift n), taken.2) := by
  obtain ⟨c, t, rfl⟩ := List.exists_cons_of_ne_nil hs
  have hfits := fits_scan hquotes (followsSign before) c t
  unfold step
  rw [← hrole.2]
  cases hscan : scan quotes (followsSign before) (c :: t) with
  | failure beyond => rfl
  | gap width => rfl
  | token kind text width =>
    rw [hscan] at hfits
    have hpos : 0 < width := hfits.1
    -- `n` can be moved out of the last column only because the token is not empty.
    have htoken : (⟨kind, String.ofList text, position + n, position + n + width - 1⟩ : Token) =
        Token.shift n ⟨kind, String.ofList text, position, position + width - 1⟩ := by
      simp only [Token.shift, Token.mk.injEq, true_and]
      omega
    have hopens : ∀ (token : Token) (rest : List Char),
        opensCommand before' (token.shift n) rest = opensCommand before token rest := by
      intro token rest
      simp only [opensCommand, hrole.1, Token.shift_kind, Token.shift_text]
    dsimp only
    rw [htoken, hopens, Nat.add_right_comm position n width, readCommand_shift]
    split
    · cases hread : readCommand quotes ((c :: t).drop width).length false position
        (position + width) ((c :: t).drop width) with
      | error beyond => rfl
      | ok ends =>
        have hle := (readCommand_stop hquotes (Nat.le_refl _) hread).1
        -- Nor is the command empty, as it ends behind its word.
        have hcommand : ∀ body : String, (⟨.text, body, ends.1 + n, ends.2 + n - 1⟩ : Token) =
            Token.shift n ⟨.text, body, ends.1, ends.2 - 1⟩ := by
          intro body
          simp only [Token.shift, Token.mk.injEq, true_and]
          omega
        simp only [Except.map, Nat.add_sub_add_right, hcommand]
        split <;> rfl
    · rfl

end SchemaTypes.Sql.Lexer
