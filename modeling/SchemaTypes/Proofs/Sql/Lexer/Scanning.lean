import SchemaTypes.Proofs.Sql.Lexer.Readers

/-!
# `SchemaTypes.Proofs.Sql.Lexer.Scanning`: what stands at the front of a text

`scan` tries one kind of token after the other. Two things about what it
finds are needed to follow the lexer through a text. It takes at least
one character, and only a semicolon is taken for one: `Found.Fits`, for
which `fits_scan` is the main statement. And it finds the same when more
lines follow: `scan_append`.

The second one is put together from the readers that `scan` tries.
`Settled` says it of a single reader, and the lemmas of its namespace say
it of a choice between readers, so that the proof for `scan` has the form
of its definition. A dollar sign is left out: what it opens is only
known from the whole rest of the text.
-/

set_option autoImplicit false

namespace SchemaTypes.Sql.Lexer

/-! ## What is found -/

namespace Found

/-- The number of characters that were taken. -/
def width : Found → Nat
  | .token _ _ width => width
  | .gap width => width
  | .failure _ => 0

/-- Whether nothing could be read. -/
def fails : Found → Bool
  | .failure _ => true
  | _ => false

/-- What may be found at the front of a text that starts with `c`: it is
not empty, and only a semicolon is taken for one. -/
def Fits (c : Char) : Found → Prop
  | .token kind _ width => 0 < width ∧ (kind = .semicolon → c = ';')
  | .gap width => 0 < width
  | .failure _ => True

/-- A token that is no semicolon satisfies `Fits` wherever it takes a
character. -/
theorem fits_token {c : Char} {kind : Kind} {text : List Char} {width : Nat}
    (hkind : kind ≠ .semicolon) (hwidth : 0 < width) : (token kind text width).Fits c :=
  ⟨hwidth, fun h => absurd h hkind⟩

end Found

/-- A reader finds in a text what it finds there when more lines follow,
unless it fails. It stands behind `taken` characters that count as taken,
and takes no more than there is. -/
def Settled (taken : Nat) (reader : List Char → Option Found) (s : List Char) : Prop :=
  (∀ found ∈ reader s, found.fails = false) → ∀ v,
    reader (s ++ '\n' :: v) = reader s ∧ ∀ found ∈ reader s, found.width ≤ taken + s.length

namespace Settled

variable {taken : Nat} {reader reader' : List Char → Option Found} {s : List Char}

/-- A reader that never finds anything is `Settled`. -/
theorem none : Settled taken (fun _ => .none) s :=
  fun _ _ => ⟨rfl, nofun⟩

/-- A reader that always answers is `Settled`, if its answer is the same
when more lines follow and stays inside the text. Failures are excluded in
the hypothesis already, so that a reader has to be followed only where it
succeeds. -/
theorem some {find : List Char → Found}
    (h : (find s).fails = false → ∀ v,
      find (s ++ '\n' :: v) = find s ∧ (find s).width ≤ taken + s.length) :
    Settled taken (fun s => .some (find s)) s := by
  intro hfails v
  obtain ⟨happend, hwidth⟩ := h (hfails _ rfl) v
  dsimp only
  rw [happend]
  refine ⟨rfl, ?_⟩
  rintro _ ⟨⟩
  exact hwidth

/-- A choice between two readers by a condition that does not look at the
text is `Settled`, if both are. -/
theorem ite {cond : Prop} [Decidable cond] (h : Settled taken reader s)
    (h' : Settled taken reader' s) :
    Settled taken (fun s => if cond then reader s else reader' s) s := by
  by_cases hcond : cond
  · simpa only [hcond, if_true] using h
  · simpa only [hcond, if_false] using h'

/-- The second of two readers matters only where the first finds nothing, so
`Settled` has to be shown of it only where the first did not. -/
theorem orElse (h : Settled taken reader s) (h' : reader s = .none → Settled taken reader' s) :
    Settled taken (fun s => reader s <|> reader' s) s := by
  intro hfails v
  dsimp only at hfails ⊢
  -- Whether the first reader finds something is the same with and without the lines that
  -- follow.
  cases hfound : reader s with
  | some found =>
    rw [hfound] at hfails
    obtain ⟨happend, hwidth⟩ := h (by rw [hfound]; exact hfails) v
    rw [hfound] at happend hwidth
    rw [happend]
    exact ⟨rfl, hwidth⟩
  | none =>
    rw [hfound] at hfails
    obtain ⟨happend, -⟩ := h (by rw [hfound]; exact nofun) v
    rw [happend, hfound]
    exact h' hfound hfails v

/-- A reader with something to fall back on, which is `orElse` with a reader
that always answers. -/
theorem getD {find : List Char → Found} (h : Settled taken reader s)
    (h' : reader s = .none → Settled taken (fun s => .some (find s)) s) :
    Settled taken (fun s => .some ((reader s).getD (find s))) s := by
  have hreader : (fun s => .some ((reader s).getD (find s))) =
      fun s => reader s <|> .some (find s) := by
    funext t
    cases reader t <;> rfl
  rw [hreader]
  exact h.orElse h'

/-- The first of several readers that finds something, by induction on their
list with `orElse`. Operators and phrases are tried from tables in this
way. -/
theorem findSome? {α : Type} {l : List α} {reader : α → List Char → Option Found}
    (h : ∀ a ∈ l, Settled taken (reader a) s) :
    Settled taken (fun s => l.findSome? (reader · s)) s := by
  induction l with
  | nil => exact none
  | cons a l ih =>
    obtain ⟨ha, hl⟩ := List.forall_mem_cons.mp h
    have hcons : (fun s => (a :: l).findSome? (reader · s)) =
        fun s => reader a s <|> l.findSome? (reader · s) := by
      funext t
      rw [List.findSome?_cons]
      cases reader a t <;> rfl
    rw [hcons]
    exact ha.orElse fun _ => ih hl

/-- Settledness of a reader that agrees with another one on all texts that
start with `c`. After the tests on its first character, `scan` is one of the
readers above only on such texts. -/
theorem congr_cons {c : Char} (hreader : ∀ t, reader (c :: t) = reader' (c :: t))
    (h : Settled taken reader' (c :: s)) : Settled taken reader (c :: s) := by
  intro hfails v
  rw [hreader] at hfails ⊢
  rw [List.cons_append, hreader]
  exact h hfails v

/-- A reader that looks at a few characters first and goes on behind them.
The characters that it passed are counted as taken in `Settled`. -/
theorem behind (front : List Char) (hreader : ∀ t, reader (front ++ t) = reader' t)
    (h : Settled front.length reader' s) : Settled 0 reader (front ++ s) := by
  intro hfails v
  rw [hreader] at hfails
  obtain ⟨happend, hwidth⟩ := h hfails v
  rw [List.append_assoc, hreader, hreader, List.length_append, Nat.zero_add]
  exact ⟨happend, hwidth⟩

end Settled

/-! ## Numbers and strings -/

/-- The marks of a base as prefixes. `scanNumber` matches on the first two
characters; as tests on prefixes the four marks are compared alike with and
without the lines that follow. -/
theorem scanNumber_eq (ofParameter : Bool) (s : List Char) :
    scanNumber ofParameter s =
      let based (form : TextForm) (digit : Char → Bool) : Found :=
        let literal := s.takeWhile fun c => !endsWord c
        let digits := literal.drop 2
        if isBaseNumber digit (digits.map Text.plainDigit) then
          .token (.otherText form) digits literal.length
        else .token .name literal literal.length
      if ['0', 'b'].isPrefixOf s || ['0', 'B'].isPrefixOf s then based .bits isBinaryDigit
      else if ['0', 'x'].isPrefixOf s || ['0', 'X'].isPrefixOf s then based .hex isHexDigit
      else
        let digits := readNumber { point := ofParameter } s
        .token .number digits digits.length := by
  -- The four marks of a base are the first cases, and what has none of them is the last.
  unfold scanNumber
  split
  · rfl
  · rfl
  · rfl
  · rfl
  · rename_i hb hB hx hX
    simp only [isPrefixOf_eq_false ['0', 'b'] hb, isPrefixOf_eq_false ['0', 'B'] hB,
      isPrefixOf_eq_false ['0', 'x'] hx, isPrefixOf_eq_false ['0', 'X'] hX, Bool.or_self,
      Bool.false_eq_true, if_false]

/-- A number, with or without a mark of its base, is the same when more
lines follow: its digits and its letters stop at the line break
(`readNumber_append`). -/
theorem scanNumber_append (ofParameter : Bool) (s v : List Char) :
    scanNumber ofParameter (s ++ '\n' :: v) = scanNumber ofParameter s := by
  have hliteral : (s ++ '\n' :: v).takeWhile (fun c => !endsWord c) =
      s.takeWhile fun c => !endsWord c := Proofs.takeWhile_append_cons (by decide) s v
  have hmark : ∀ c, c ≠ '\n' → ['0', c].isPrefixOf (s ++ '\n' :: v) = ['0', c].isPrefixOf s := by
    intro c hc
    exact isPrefixOf_append_newline (by simp [Ne.symm hc]) s v
  simp only [scanNumber_eq, hliteral, readNumber_append, hmark 'b' (by decide),
    hmark 'B' (by decide), hmark 'x' (by decide), hmark 'X' (by decide)]

/-- Numbers are `Settled`: they are the same by `scanNumber_append`, and
stay inside the text by `length_readNumber_le`. -/
theorem settled_scanNumber (ofParameter : Bool) (s : List Char) :
    Settled 0 (fun s => some (scanNumber ofParameter s)) s := by
  refine .some fun _ v => ⟨scanNumber_append ofParameter s v, ?_⟩
  have hliteral := (List.takeWhile_prefix (l := s) fun c => !endsWord c).length_le
  have hnumber := length_readNumber_le { point := ofParameter } s
  rw [scanNumber_eq, Nat.zero_add]
  dsimp only
  repeat' split
  all_goals assumption

/-- A number that starts with a digit satisfies `Fits`, since it takes at
least that digit. With a mark of a base the literal starts with a zero,
which does not end a word. -/
theorem fits_scanNumber (ofParameter : Bool) {c : Char} (hc : c.isDigit = true) (s : List Char) :
    (scanNumber ofParameter (c :: s)).Fits c := by
  have hword : endsWord '0' = false := by decide
  -- A literal with a mark of its base has at least the zero.
  have hliteral : ∀ d, ['0', d].isPrefixOf (c :: s) = true →
      0 < ((c :: s).takeWhile fun c => !endsWord c).length := by
    intro d hd
    have hzero : '0' = c := by simpa using (Bool.and_eq_true_iff.mp hd).1
    subst hzero
    simp [hword]
  have hnumber : 0 < (readNumber { point := ofParameter } (c :: s)).length := by
    simp [readNumber, hc]
  rw [scanNumber_eq]
  dsimp only
  split
  · rename_i hbits
    have hpos := (Bool.or_eq_true_iff.mp hbits).elim (hliteral 'b') (hliteral 'B')
    split
    · exact Found.fits_token (by simp) hpos
    · exact Found.fits_token (by simp) hpos
  · split
    · rename_i hhex
      have hpos := (Bool.or_eq_true_iff.mp hhex).elim (hliteral 'x') (hliteral 'X')
      split
      · exact Found.fits_token (by simp) hpos
      · exact Found.fits_token (by simp) hpos
    · exact Found.fits_token (by simp) hnumber

/-- A quoted text is settled: if it does not fail, its end stands in the
text (`readQuoted_append`). Its opening, of one to three characters, is
counted as taken. -/
theorem settled_ofRead {quote : Char} (hquote : quote ≠ '\n') (backslash : Backslash)
    (kind : Kind) (opening : Nat) (s : List Char) :
    Settled opening (fun s => some (.ofRead kind opening (readQuoted quote backslash s))) s := by
  refine .some fun hfails v => ?_
  cases hread : readQuoted quote backslash s with
  | error beyond =>
    rw [hread] at hfails
    cases hfails
  | ok read =>
    obtain ⟨happend, hle⟩ := readQuoted_append hquote hread v
    rw [happend]
    exact ⟨rfl, Nat.add_le_add_left hle opening⟩

/-- A quoted text satisfies `Fits`, since it takes at least its opening,
whatever its reading comes to. -/
theorem fits_ofRead (c : Char) (kind : Kind) (hkind : kind ≠ .semicolon) {opening : Nat}
    (hopening : 0 < opening) (outcome : Except Int Read) :
    (Found.ofRead kind opening outcome).Fits c := by
  cases outcome with
  | error beyond => trivial
  | ok read => exact Found.fits_token hkind (Nat.add_pos_left hopening _)

/-- A quoted number in base two or sixteen is `Settled`, as the quoted text
that it is (`readQuoted_append`). Where the text is no number, there is
nothing to show. -/
theorem settled_scanDigits (quotes : Quotes) (form : TextForm) (digit : Char → Bool)
    (mark : Char) (s : List Char) :
    Settled 2 (fun s => some (scanDigits quotes form digit mark s)) s := by
  refine .some fun hfails v => ?_
  unfold scanDigits at hfails ⊢
  cases hread : readQuoted '\'' quotes.backslash s with
  | error beyond =>
    rw [hread] at hfails
    cases hfails
  | ok read =>
    obtain ⟨happend, hle⟩ := readQuoted_append (by decide) hread v
    rw [hread] at hfails
    rw [happend]
    -- A text that is no number fails, so it was one.
    dsimp only at hfails ⊢
    split at hfails
    · rename_i hdigits
      rw [if_pos hdigits, if_pos hdigits]
      exact ⟨rfl, Nat.add_le_add_left hle 2⟩
    · cases hfails

/-- A quoted number takes the letter and the quote in front of it, so it
satisfies `Fits`. -/
theorem fits_scanDigits (quotes : Quotes) (form : TextForm) (digit : Char → Bool)
    (mark c : Char) (s : List Char) : (scanDigits quotes form digit mark s).Fits c := by
  unfold scanDigits
  split
  · split
    · exact Found.fits_token (by simp) (by omega)
    · trivial
  · trivial

/-- A letter in front of a quote, or a letter and an ampersand, opens a text
of its own kind. The first two or three characters decide which, and what is
read behind them is settled (`settled_ofRead`, `settled_scanDigits`). -/
theorem settled_scanLetterString (quotes : Quotes) (c : Char) (s : List Char) :
    Settled 0 (scanLetterString quotes) (c :: s) := by
  have hquote : '\'' ≠ '\n' := by decide
  cases s with
  | nil => exact fun _ _ => ⟨rfl, nofun⟩
  | cons d t =>
    by_cases hd : d = '\''
    · subst hd
      -- Which letter stands in front of the quote decides how the text is read.
      exact .behind [c, '\''] (fun _ => rfl)
        (.ite (settled_ofRead hquote _ _ 2 t)
          (.ite (settled_scanDigits quotes .bits isBinaryDigit 'b' t)
            (.ite (settled_scanDigits quotes .hex isHexDigit 'x' t)
              (.ite (settled_ofRead hquote _ _ 2 t) .none))))
    by_cases hamp : d = '&'
    · subst hamp
      cases t with
      | nil => exact fun _ _ => ⟨rfl, nofun⟩
      | cons e u =>
        by_cases he : e = '\''
        · subst he
          exact .behind [c, '&', '\''] (fun _ => rfl)
            (.ite (settled_ofRead hquote _ _ 3 u) .none)
        · intro _ v
          simp [scanLetterString, he]
    · intro _ v
      simp [scanLetterString, hd, hamp]

/-- A text with a letter in front takes its opening, and is no semicolon, so
it satisfies `Fits`. -/
theorem fits_scanLetterString (quotes : Quotes) {c : Char} {s : List Char} {found : Found}
    (h : scanLetterString quotes (c :: s) = some found) : found.Fits c := by
  have hread : ∀ (form : TextForm) (opening : Nat) (outcome : Except Int Read), 0 < opening →
      (Found.ofRead (.otherText form) opening outcome).Fits c := by
    intro form opening outcome hopening
    exact fits_ofRead c (.otherText form) (by simp) hopening outcome
  -- The cases are the letters that may stand in front of the quote.
  unfold scanLetterString at h
  split at h
  · rename_i heq
    cases heq
    split at h
    · cases h
      exact hread .national 2 _ (by decide)
    split at h
    · cases h
      exact fits_scanDigits ..
    split at h
    · cases h
      exact fits_scanDigits ..
    split at h
    · cases h
      exact hread .escaped 2 _ (by decide)
    · cases h
  · split at h
    · cases h
      exact hread .unicode 3 _ (by decide)
    · cases h
  · cases h

/-- What `scanDollar` finds takes the dollar sign at least. Nothing is said
here about more lines: see the header. -/
theorem fits_scanDollar (s : List Char) : (scanDollar s).Fits '$' := by
  -- The sign has no second one behind it, one right behind it, or one behind a tag.
  unfold scanDollar
  split
  · trivial
  · split
    · split
      · trivial
      · exact Found.fits_token (by simp) Nat.one_pos
    · split
      · trivial
      · exact fits_ofRead '$' (.otherText .dollar) (by decide) (by decide) _
    · dsimp only
      split
      · exact Found.fits_token (by simp) (by decide)
      · split
        · exact Found.fits_token (by simp) Nat.one_pos
        · exact fits_ofRead '$' (.otherText .dollar) (by decide) (Nat.succ_pos _) _

/-! ## Comments -/

/-- A block comment is settled, if its marks hold no line break: it either
fails or ends inside the text (`commentWidth_append`). -/
theorem settled_scanBlock {opening closing : List Char} (hopening : '\n' ∉ opening)
    (hclosing : '\n' ∉ closing) (s : List Char) :
    Settled opening.length (fun s => some (scanBlock opening closing s)) s := by
  refine .some fun hfails v => ?_
  unfold scanBlock at hfails ⊢
  cases hwidth : commentWidth opening closing s.length opening.length 0 s with
  | none =>
    rw [hwidth] at hfails
    cases hfails
  | some width =>
    have hfuel : s.length ≤ (s ++ '\n' :: v).length := by simp
    rw [commentWidth_append hopening hclosing hfuel hwidth v]
    exact ⟨rfl, (commentWidth_bounds hwidth).2⟩

/-- A comment up to the end of its line is `Settled`, as the line break that
is added ends it too. -/
theorem settled_lineComment (opening : Nat) (s : List Char) :
    Settled opening (fun s => some (.gap
      (opening + (s.takeWhile fun c => c != '\n' && c != '\r').length))) s := by
  refine .some fun _ v => ?_
  rw [Proofs.takeWhile_append_cons (by decide)]
  exact ⟨rfl, Nat.add_le_add_left (List.takeWhile_prefix _).length_le opening⟩

/-- Comments are settled, those in blocks by `settled_scanBlock` and the
others by `settled_lineComment`. There are four openings, each of one or two
characters; where none of them stands, a line break behind the text
completes none. -/
theorem settled_scanComment (quotes : Quotes) (c : Char) (s : List Char) :
    Settled 0 (scanComment quotes) (c :: s) := by
  by_cases hhash : c = '#'
  · subst hhash
    exact .behind ['#'] (fun _ => rfl) (.ite (settled_lineComment 1 s) .none)
  -- No other comment opens with a single character.
  have hnone : ∀ u, (∀ d ∈ u.head?, ¬(c = '-' ∧ d = '-') ∧ ¬(c = '/' ∧ d = '*') ∧
      ¬(c = '\x7b' ∧ d = '#')) → scanComment quotes (c :: u) = none := by
    intro u hu
    unfold scanComment
    split <;> simp_all
  cases s with
  | nil =>
    intro _ v
    rw [List.singleton_append, hnone ('\n' :: v) (by simp), hnone [] nofun]
    exact ⟨rfl, nofun⟩
  | cons d t =>
    by_cases hdashes : c = '-' ∧ d = '-'
    · obtain ⟨rfl, rfl⟩ := hdashes
      exact .behind ['-', '-'] (fun _ => rfl) (settled_lineComment 2 t)
    by_cases hstar : c = '/' ∧ d = '*'
    · obtain ⟨rfl, rfl⟩ := hstar
      exact .behind ['/', '*'] (fun _ => rfl) (settled_scanBlock (by decide) (by decide) t)
    by_cases hbrace : c = '\x7b' ∧ d = '#'
    · obtain ⟨rfl, rfl⟩ := hbrace
      exact .behind ['\x7b', '#'] (fun _ => rfl) (settled_scanBlock (by decide) (by decide) t)
    have hd : ∀ u, scanComment quotes (c :: d :: u) = none := fun u =>
      hnone (d :: u) (by rintro _ ⟨⟩; exact ⟨hdashes, hstar, hbrace⟩)
    intro _ v
    rw [List.cons_append, List.cons_append, hd, hd]
    exact ⟨rfl, nofun⟩

/-- What `scanComment` finds takes the opening of the comment at least. -/
theorem fits_scanComment (quotes : Quotes) {c : Char} {s : List Char} {found : Found}
    (h : scanComment quotes (c :: s) = some found) : found.Fits c := by
  have hblock : ∀ (opening closing t : List Char), 0 < opening.length →
      (scanBlock opening closing t).Fits c := by
    intro opening closing t hopening
    unfold scanBlock
    split
    · rename_i width hwidth
      exact Nat.lt_of_lt_of_le hopening (commentWidth_bounds hwidth).1
    · trivial
  -- Two openings are those of a line comment, two those of a block.
  unfold scanComment at h
  split at h
  · cases h
    exact Nat.add_pos_left (by decide) _
  · split at h
    · cases h
      exact Nat.add_pos_left (by decide) _
    · cases h
  · cases h
    exact hblock _ _ _ (by decide)
  · cases h
    exact hblock _ _ _ (by decide)
  · cases h

/-! ## Operators, phrases and words -/

/-- The `operators` are not empty and hold no line break, by looking at each
of them. -/
theorem operators_plain : ∀ operator ∈ operators,
    0 < operator.length ∧ '\n' ∉ operator.toList := by
  decide +kernel

/-- Operators are `Settled`: they are compared as prefixes, and by
`operators_plain` none of them holds a line break. -/
theorem settled_scanOperator (s : List Char) : Settled 0 scanOperator s := by
  refine .findSome? fun operator hoperator => ?_
  intro _ v
  dsimp only
  rw [isPrefixOf_append_newline (operators_plain operator hoperator).2]
  refine ⟨rfl, ?_⟩
  intro found hfound
  split at hfound
  · rename_i hprefix
    cases hfound
    have hlength := (List.isPrefixOf_iff_prefix.mp hprefix).length_le
    rw [String.length_toList] at hlength
    exact Nat.le_trans hlength (Nat.le_add_left _ _)
  · cases hfound

/-- Phrases are settled as long as a semicolon is still to come, which stops
the blanks between their words (`phraseWidth_append`). -/
theorem settled_scanPhrase {quotes : Quotes} (hquotes : Lawful quotes)
    {s : List Char} (hs : ';' ∈ s) : Settled 0 (scanPhrase quotes) s := by
  refine .findSome? fun phrase hphrase => ?_
  have hwords := hquotes.isPhrase phrase hphrase
  intro _ v
  obtain ⟨happend, hwidth⟩ := phraseWidth_append hwords.2 hs v
  dsimp only
  rw [happend]
  refine ⟨rfl, ?_⟩
  intro found hfound
  obtain ⟨width, hmem, rfl⟩ := Option.map_eq_some_iff.mp hfound
  exact Nat.le_trans (hwidth width hmem) (Nat.le_add_left _ _)

/-- A mark of one character or a word is `Settled`. A word ends before the
line break, as a run of letters. -/
theorem settled_scanPlain (c : Char) (s : List Char) :
    Settled 0 (fun s => some (scanPlain s)) (c :: s) := by
  refine .some fun _ v => ?_
  have hword : (s ++ '\n' :: v).takeWhile inWord = s.takeWhile inWord :=
    Proofs.takeWhile_append_cons (by decide) s v
  have hle := (List.takeWhile_prefix (l := s) inWord).length_le
  simp only [List.cons_append, scanPlain, hword, true_and]
  split
  · simp [Found.width]
  · simpa [Found.width] using hle

/-- What stands at the front of a text that is neither a literal nor a
comment. -/
def scanMark (quotes : Quotes) (s : List Char) : Found :=
  (scanOperator s <|> scanPhrase quotes s).getD (scanPlain s)

/-- An operator, a phrase, a mark or a word is settled, if a semicolon is
still to come; only the phrases need it (`settled_scanPhrase`). -/
theorem settled_scanMark {quotes : Quotes} (hquotes : Lawful quotes)
    {c : Char} {s : List Char} (hs : ';' ∈ c :: s) :
    Settled 0 (fun s => some (scanMark quotes s)) (c :: s) := by
  have hword := (settled_scanOperator (c :: s)).orElse fun _ => settled_scanPhrase hquotes hs
  exact hword.getD fun _ => settled_scanPlain c s

/-- Only a semicolon has the kind of one, among all the marks that
`markKind` knows. -/
theorem eq_of_markKind {c : Char} (h : markKind c = .semicolon) : c = ';' := by
  unfold markKind at h
  iterate 6
    split at h
    · cases h
  split at h
  · rename_i hc
    exact eq_of_beq hc
  · cases h

/-- An operator, a phrase, a mark or a word is always found, and none of
them is a gap. So where neither a literal nor a comment stands, a token is
taken, which `settled_scan` uses to tell gaps from tokens. -/
theorem scanMark_eq_token {quotes : Quotes} (hquotes : Lawful quotes)
    (c : Char) (s : List Char) :
    ∃ kind text width, scanMark quotes (c :: s) = .token kind text width ∧
      0 < width ∧ (kind = .semicolon → c = ';') := by
  unfold scanMark
  -- In the order in which they are tried: operators, phrases, and then a single mark or a word.
  cases hoperator : scanOperator (c :: s) with
  | some found =>
    obtain ⟨operator, hmem, hfound⟩ := List.exists_of_findSome?_eq_some hoperator
    split at hfound
    · cases hfound
      exact ⟨_, _, _, rfl, (operators_plain operator hmem).1, nofun⟩
    · cases hfound
  | none =>
    cases hphrase : scanPhrase quotes (c :: s) with
    | some found =>
      obtain ⟨phrase, hmem, hfound⟩ := List.exists_of_findSome?_eq_some hphrase
      obtain ⟨width, hwidth, rfl⟩ := Option.map_eq_some_iff.mp hfound
      exact ⟨_, _, _, rfl, phraseWidth_pos (hquotes.isPhrase phrase hmem) hwidth, nofun⟩
    | none =>
      show ∃ kind text width, scanPlain (c :: s) = .token kind text width ∧ _
      simp only [scanPlain]
      split
      · exact ⟨_, _, _, rfl, Nat.one_pos, eq_of_markKind⟩
      · exact ⟨_, _, _, rfl, Nat.succ_pos _, nofun⟩

/-! ## The front of a text -/

/-- What is tried, in the order in which it is tried. The last four readers
of `scan` are grouped as `scanMark`, because they need a semicolon to be
settled and the others do not. -/
theorem scan_cons (quotes : Quotes) (ofParameter : Bool) (c : Char) (s : List Char) :
    scan quotes ofParameter (c :: s) =
      if Text.isBlank c then .gap 1
      else if c.isDigit then scanNumber ofParameter (c :: s)
      else if quotes.names.contains c then .ofRead .name 1 (readQuoted c .plain s)
      else if quotes.texts.contains c then .ofRead .text 1 (readQuoted c quotes.backslash s)
      else if c == '$' && quotes.dollars then scanDollar s
      else
        (scanLetterString quotes (c :: s) <|> scanComment quotes (c :: s)).getD
          (scanMark quotes (c :: s)) := by
  have hchain : (scanLetterString quotes (c :: s) <|> scanComment quotes (c :: s) <|>
        scanOperator (c :: s) <|> scanPhrase quotes (c :: s)).getD (scanPlain (c :: s)) =
      (scanLetterString quotes (c :: s) <|> scanComment quotes (c :: s)).getD
        (scanMark quotes (c :: s)) := by
    unfold scanMark
    cases scanLetterString quotes (c :: s) <;> cases scanComment quotes (c :: s) <;> rfl
  rw [scan, hchain]

/-- What `scan` finds at the front of a text takes at least one character,
and is a semicolon only if one stands there. The first part makes the lexer
go forward; the second lets statements be told by their first characters. -/
theorem fits_scan {quotes : Quotes} (hquotes : Lawful quotes)
    (ofParameter : Bool) (c : Char) (s : List Char) :
    (scan quotes ofParameter (c :: s)).Fits c := by
  -- The readers are gone through in the order in which they are tried.
  rw [scan_cons]
  split
  · exact Nat.one_pos
  split
  · rename_i hdigit
    exact fits_scanNumber ofParameter hdigit s
  split
  · exact fits_ofRead c .name (by simp) Nat.one_pos _
  split
  · exact fits_ofRead c .text (by simp) Nat.one_pos _
  split
  · rename_i hdollar
    have hc : c = '$' := eq_of_beq (Bool.and_eq_true_iff.mp hdollar).1
    exact hc ▸ fits_scanDollar s
  cases hletter : scanLetterString quotes (c :: s) with
  | some found => exact fits_scanLetterString quotes hletter
  | none =>
    cases hcomment : scanComment quotes (c :: s) with
    | some found => exact fits_scanComment quotes hcomment
    | none =>
      obtain ⟨kind, text, width, hmark, hfits⟩ := scanMark_eq_token hquotes c s
      show (scanMark quotes (c :: s)).Fits c
      rw [hmark]
      exact hfits

/-- What is found at the front of a text is settled. The cases are those of
`scan_cons`. Blanks and comments are settled by themselves; a token is, if a
semicolon is still to come. -/
theorem settled_scan {quotes : Quotes} (hquotes : Lawful quotes) (ofParameter : Bool)
    {c : Char} {s : List Char} (hdollar : c ≠ '$' ∨ quotes.dollars = false)
    (hends : ';' ∈ c :: s ∨ ∃ width, scan quotes ofParameter (c :: s) = .gap width) :
    Settled 0 (fun s => some (scan quotes ofParameter s)) (c :: s) := by
  by_cases hblank : Text.isBlank c = true
  · have hscan : ∀ t, scan quotes ofParameter (c :: t) = .gap 1 := by
      intro t
      rw [scan_cons, if_pos hblank]
    exact .some fun _ v => by simp [hscan, Found.width]
  have hnewline : c ≠ '\n' := by
    rintro rfl
    exact hblank (by decide)
  by_cases hdigit : c.isDigit = true
  · have hscan : ∀ t, scan quotes ofParameter (c :: t) = scanNumber ofParameter (c :: t) := by
      intro t
      rw [scan_cons, if_neg hblank, if_pos hdigit]
    exact .congr_cons (fun t => congrArg some (hscan t)) (settled_scanNumber ofParameter (c :: s))
  by_cases hname : quotes.names.contains c = true
  · have hscan : ∀ t, scan quotes ofParameter (c :: t) =
        .ofRead .name 1 (readQuoted c .plain t) := by
      intro t
      rw [scan_cons, if_neg hblank, if_neg hdigit, if_pos hname]
    exact .behind [c] (fun t => congrArg some (hscan t))
      (settled_ofRead hnewline .plain .name 1 s)
  by_cases htext : quotes.texts.contains c = true
  · have hscan : ∀ t, scan quotes ofParameter (c :: t) =
        .ofRead .text 1 (readQuoted c quotes.backslash t) := by
      intro t
      rw [scan_cons, if_neg hblank, if_neg hdigit, if_neg hname, if_pos htext]
    exact .behind [c] (fun t => congrArg some (hscan t))
      (settled_ofRead hnewline quotes.backslash .text 1 s)
  have hno : ¬(c == '$' && quotes.dollars) = true := by
    rcases hdollar with hdollar | hdollar <;> simp [hdollar]
  have hscan : ∀ t, scan quotes ofParameter (c :: t) =
      (scanLetterString quotes (c :: t) <|> scanComment quotes (c :: t)).getD
        (scanMark quotes (c :: t)) := by
    intro t
    rw [scan_cons, if_neg hblank, if_neg hdigit, if_neg hname, if_neg htext, if_neg hno]
  have hfirst := (settled_scanLetterString quotes c s).orElse fun _ =>
    settled_scanComment quotes c s
  refine .congr_cons (fun t => congrArg some (hscan t)) (hfirst.getD fun hnone => ?_)
  -- Neither a literal nor a comment, so it is no gap and a semicolon is still to come.
  refine settled_scanMark hquotes (hends.resolve_right ?_)
  rintro ⟨width, hgap⟩
  obtain ⟨kind, text, width', hmark, -⟩ := scanMark_eq_token hquotes c s
  rw [hscan, hnone, Option.getD_none, hmark] at hgap
  cases hgap

/-- What `scan` finds at the front of a text is the same however the text
goes on after a line break, provided that a statement still ends in it.
Blanks and comments do not need the end of a statement. -/
theorem scan_append {quotes : Quotes} (hquotes : Lawful quotes) (ofParameter : Bool)
    {c : Char} {s : List Char} (hdollar : c ≠ '$' ∨ quotes.dollars = false)
    (hfails : (scan quotes ofParameter (c :: s)).fails = false)
    (hends : ';' ∈ c :: s ∨ ∃ width, scan quotes ofParameter (c :: s) = .gap width)
    (v : List Char) :
    scan quotes ofParameter (c :: s ++ '\n' :: v) = scan quotes ofParameter (c :: s) ∧
      (scan quotes ofParameter (c :: s)).width ≤ (c :: s).length := by
  have hfound : ∀ found ∈ some (scan quotes ofParameter (c :: s)), found.fails = false := by
    rintro _ ⟨⟩
    exact hfails
  obtain ⟨happend, hwidth⟩ := settled_scan hquotes ofParameter hdollar hends hfound v
  have hle := hwidth _ rfl
  rw [Nat.zero_add] at hle
  exact ⟨Option.some.inj happend, hle⟩

end SchemaTypes.Sql.Lexer
