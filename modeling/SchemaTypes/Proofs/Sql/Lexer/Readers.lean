import SchemaTypes.Proofs.Runs
import SchemaTypes.Proofs.Traversal
import SchemaTypes.Sql.Lexer

/-!
# `SchemaTypes.Proofs.Sql.Lexer.Readers`: reading up to a line break

The readers of the lexer go forward through a text and may look a few
characters ahead. This module shows for each of them that it reads the
same from a text and from the text with a line break and more behind it.
No reader passes a line break by accident: it is no digit, no part of a
word and no part of an operator or of the opening of a comment.

Two readers do pass it. A quoted text and a block comment may go on over
many lines, so for them (`readQuoted_append`, `commentWidth_append`) the
text has to contain their end. And the words of a phrase may stand on
lines of their own, so `phraseWidth_append` asks for a semicolon in the
text: the blanks behind a word end at it, at the latest.
-/

set_option autoImplicit false

namespace SchemaTypes.Sql.Lexer

/-! ## Prefixes and numbers -/

/-- Whether a text starts with given characters is settled before a line
break, if there is none among them, so `List.isPrefixOf` never looks behind
the break. Operators, the marks of a comment and the marks of a base are
looked for in this way. -/
theorem isPrefixOf_append_newline {l : List Char} (hl : '\n' ∉ l) (s v : List Char) :
    l.isPrefixOf (s ++ '\n' :: v) = l.isPrefixOf s := by
  induction l generalizing s with
  | nil => simp
  | cons c l ih =>
    obtain ⟨hc, hl⟩ := not_or.mp (mt List.mem_cons.mpr hl)
    cases s with
    | nil => simp [List.isPrefixOf, Ne.symm hc]
    | cons d s => simp [List.isPrefixOf, ih hl]

/-- A text that does not start with given characters, read off the form in
which a pattern match leaves the fact. `scanNumber_eq` turns the patterns of
`scanNumber` into tests with this. -/
theorem isPrefixOf_eq_false (l : List Char) {s : List Char} (h : ∀ t, s = l ++ t → False) :
    l.isPrefixOf s = false := by
  cases hprefix : l.isPrefixOf s with
  | false => rfl
  | true =>
    obtain ⟨t, ht⟩ := List.isPrefixOf_iff_prefix.mp hprefix
    exact (h t ht.symm).elim

/-- A run of at most `count` characters stops at a line break, which is of
none of the kinds that are read. The digits of a code behind a backslash are
such a run. -/
theorem takeWhile_take_append_newline {p : Char → Bool} (hp : p '\n' = false) (count : Nat)
    (s v : List Char) :
    ((s ++ '\n' :: v).take count).takeWhile p = (s.take count).takeWhile p := by
  induction s generalizing count with
  | nil => cases count <;> simp [hp]
  | cons c s ih => cases count <;> simp [List.takeWhile_cons, ih]

/-- A number is read to its end before a line break. What `readNumber` looks
at is one character ahead, behind a point or an exponent, and a line break
there is no digit. -/
theorem readNumber_append (state : NumberState) (s v : List Char) :
    readNumber state (s ++ '\n' :: v) = readNumber state s := by
  induction s generalizing state with
  | nil => simp [readNumber]
  | cons c s ih =>
    have hhead : (s ++ '\n' :: v).head?.any Char.isDigit = s.head?.any Char.isDigit := by
      cases s <;> rfl
    simp only [List.cons_append, readNumber, ih, hhead]

/-- A number that `readNumber` reads is no longer than the text that it is
read from. -/
theorem length_readNumber_le (state : NumberState) (s : List Char) :
    (readNumber state s).length ≤ s.length := by
  fun_induction readNumber state s <;> simp only [List.length_cons, List.length_nil] <;> omega

/-! ## Quoted texts -/

/-- The code of a character behind a backslash is read before a line break:
it is a run of digits, of a length that its letter decides, to which
`takeWhile_take_append_newline` applies. -/
theorem readCode_append (c : Char) (s v : List Char) :
    readCode (c :: (s ++ '\n' :: v)) = readCode (c :: s) := by
  have hoctal : ((c :: (s ++ '\n' :: v)).take 3).takeWhile isOctalDigit =
      ((c :: s).take 3).takeWhile isOctalDigit :=
    takeWhile_take_append_newline (by decide) 3 (c :: s) v
  have hhex : ∀ count, ((s ++ '\n' :: v).take count).takeWhile isHexDigit =
      (s.take count).takeWhile isHexDigit := fun count =>
    takeWhile_take_append_newline (by decide) count s v
  simp only [readCode, hoctal, List.drop_succ_cons, List.drop_zero, hhex, List.head?_cons]

/-- A code that `readCode` reads takes at least one character and no more
than there are. -/
theorem length_readCode {c : Char} {s : List Char} {read : Read}
    (h : readCode (c :: s) = some read) : 0 < read.2 ∧ read.2 ≤ s.length + 1 := by
  have hrun : ∀ (p : Char → Bool) (count : Nat) (l : List Char),
      ((l.take count).takeWhile p).length ≤ l.length := fun p count l =>
    Nat.le_trans (List.takeWhile_prefix p).length_le (List.length_take_le' count l)
  simp only [readCode, List.head?_cons, List.drop_succ_cons, List.drop_zero] at h
  -- The letter decides how many digits are read at most: two, four or eight in base sixteen, or
  -- three in base eight.
  split at h
  · split at h
    · cases h
    · cases h
      have := hrun isHexDigit 2 s
      exact ⟨by omega, by omega⟩
  · split at h
    · cases h
      have := hrun isHexDigit 4 s
      exact ⟨by omega, by omega⟩
    · cases h
  · split at h
    · cases h
      have := hrun isHexDigit 8 s
      exact ⟨by omega, by omega⟩
    · cases h
  · split at h
    · cases h
    · rename_i hsome
      cases h
      have := hrun isOctalDigit 3 (c :: s)
      exact ⟨List.length_pos_iff.mpr (mt List.isEmpty_iff.mpr hsome), this⟩

/-- What a backslash and the character behind it stand for is settled before
a line break, unless that character is the line break itself. Only a code
looks further, which is `readCode_append`. -/
theorem readEscape_append (backslash : Backslash) (c : Char) (s v : List Char) :
    readEscape backslash c (s ++ '\n' :: v) = readEscape backslash c s := by
  simp only [readEscape, readCode_append]

/-- An escape takes at least the character behind the backslash and no more
than there are. `readQuotedFrom_append` goes on behind it and needs both
bounds. -/
theorem length_readEscape (backslash : Backslash) (c : Char) (s : List Char) :
    0 < (readEscape backslash c s).2 ∧ (readEscape backslash c s).2 ≤ s.length + 1 := by
  have hone : 0 < 1 ∧ 1 ≤ s.length + 1 := by omega
  unfold readEscape
  split
  · exact hone
  · split
    · cases hcode : readCode (c :: s) with
      | none => exact hone
      | some read => exact length_readCode hcode
    · repeat' split
      all_goals exact hone
    · exact hone

/-- A quoted text that ends, as `readQuotedFrom` reads it, is the same
whatever follows its line. The line break may stand inside the quotes, so
this cannot be read off a run that stops there: the text has to contain the
closing quote, which is what the hypothesis on the outcome says. -/
theorem readQuotedFrom_append {quote : Char} (hquote : quote ≠ '\n') {backslash : Backslash}
    {fuel fuel' : Nat} (hfuel : fuel ≤ fuel') {s : List Char} {read : Read}
    (h : readQuotedFrom quote backslash fuel s = .ok read) (v : List Char) :
    readQuotedFrom quote backslash fuel' (s ++ '\n' :: v) = .ok read ∧ read.2 ≤ s.length := by
  induction fuel generalizing fuel' s read with
  | zero => cases h
  | succ fuel ih =>
    obtain ⟨fuel', rfl⟩ : ∃ k, fuel' = k + 1 := ⟨fuel' - 1, by omega⟩
    have hfuel : fuel ≤ fuel' := Nat.le_of_succ_le_succ hfuel
    -- What is read on from `t`, behind `width` characters that stand for `text`.
    have hstep : ∀ (t text : List Char) (width : Nat),
        (readQuotedFrom quote backslash fuel t).map (.after text width) = .ok read →
          (readQuotedFrom quote backslash fuel' (t ++ '\n' :: v)).map (.after text width) =
            .ok read ∧ read.2 ≤ width + t.length := by
      intro t text width ht
      obtain ⟨read', hread', rfl⟩ := Proofs.map_eq_ok_iff.mp ht
      obtain ⟨happend, hle⟩ := ih hfuel hread'
      exact ⟨Proofs.map_eq_ok_iff.mpr ⟨read', happend, rfl⟩, Nat.add_le_add_left hle width⟩
    match s with
    | [] => cases h
    | [c] =>
      -- The closing quote is the last character: a line break does not double it.
      simp only [readQuotedFrom] at h
      split at h
      · rename_i hc
        cases h
        simp [readQuotedFrom, hc, Ne.symm hquote]
      · cases h
    | c :: d :: rest =>
      have hrest : ∀ {α : Type} (x y : α), rest.isEmpty = false →
          (if (rest ++ '\n' :: v).isEmpty = true then x else y) = y := by simp
      simp only [List.cons_append, readQuotedFrom] at h ⊢
      by_cases hends : (c == quote && d != quote) = true
      · rw [if_pos hends] at h ⊢
        cases h
        exact ⟨rfl, Nat.succ_le_succ (Nat.zero_le _)⟩
      rw [if_neg hends] at h ⊢
      by_cases hdoubled : (c == quote) = true
      · rw [if_pos hdoubled] at h ⊢
        cases hempty : rest.isEmpty with
        | true => simp [hempty] at h
        | false =>
          simp only [hempty, Bool.false_eq_true, if_false] at h
          obtain ⟨happend, hle⟩ := hstep rest [d] 2 h
          refine ⟨(hrest _ _ hempty).trans happend, ?_⟩
          simp only [List.length_cons]
          omega
      rw [if_neg hdoubled] at h ⊢
      by_cases hescape : (c == '\\' && backslash != .plain) = true
      · rw [if_pos hescape] at h ⊢
        cases hempty : rest.isEmpty with
        | true => simp [hempty] at h
        | false =>
          simp only [hempty, Bool.false_eq_true, if_false] at h
          have hwidth := (length_readEscape backslash d rest).2
          obtain ⟨happend, hle⟩ := hstep _ _ _ h
          rw [← List.drop_append_of_le_length (by simpa using hwidth)] at happend
          refine ⟨(hrest _ _ hempty).trans ?_, ?_⟩
          · rw [readEscape_append]
            exact happend
          · simp only [List.length_drop, List.length_cons] at hle ⊢
            omega
      · rw [if_neg hescape] at h ⊢
        obtain ⟨happend, hle⟩ := hstep (d :: rest) [c] 1 h
        exact ⟨happend, Nat.le_trans hle (Nat.le_of_eq (Nat.add_comm _ _))⟩

/-- A quoted text from its opening quote on, in the form in which `scan`
asks for it; see `readQuotedFrom_append`. -/
theorem readQuoted_append {quote : Char} (hquote : quote ≠ '\n') {backslash : Backslash}
    {s : List Char} {read : Read} (h : readQuoted quote backslash s = .ok read) (v : List Char) :
    readQuoted quote backslash (s ++ '\n' :: v) = .ok read ∧ read.2 ≤ s.length :=
  readQuotedFrom_append hquote (by simp) h v

/-! ## Comments -/

/-- The width of a comment counts what was taken before and goes no further
than the text. The lower bound makes a comment take a character
(`fits_scanComment`), the upper one keeps it inside the text
(`settled_scanBlock`). -/
theorem commentWidth_bounds {opening closing : List Char} {fuel before depth width : Nat}
    {s : List Char} (h : commentWidth opening closing fuel before depth s = some width) :
    before ≤ width ∧ width ≤ before + s.length := by
  induction fuel generalizing before depth s with
  | zero => cases h
  | succ fuel ih =>
    cases s with
    | nil => cases h
    | cons c rest =>
      simp only [commentWidth] at h
      -- The comment ends here, one more is opened, or a character is passed.
      split at h
      · rename_i hends
        have hcloses := List.isPrefixOf_iff_prefix.mp (Bool.and_eq_true_iff.mp hends).1
        have hlength := hcloses.length_le
        cases h
        omega
      · split at h
        · rename_i hopens
          have hlength := (List.isPrefixOf_iff_prefix.mp hopens).length_le
          have hrest := ih h
          simp only [List.length_drop, List.length_cons] at hrest ⊢
          omega
        · have hrest := ih h
          simp only [List.length_cons]
          omega

/-- A comment that ends is the same whatever follows. Its opening and its
closing stand on one line each, so neither is completed behind a line break.
By induction on the step count of `commentWidth`; that of the longer text
may be larger, so the two are related by an inequality. -/
theorem commentWidth_append {opening closing : List Char} (hopening : '\n' ∉ opening)
    (hclosing : '\n' ∉ closing) {fuel fuel' : Nat} (hfuel : fuel ≤ fuel') {before depth : Nat}
    {s : List Char} {width : Nat}
    (h : commentWidth opening closing fuel before depth s = some width) (v : List Char) :
    commentWidth opening closing fuel' before depth (s ++ '\n' :: v) = some width := by
  induction fuel generalizing fuel' before depth s with
  | zero => cases h
  | succ fuel ih =>
    obtain ⟨fuel', rfl⟩ : ∃ k, fuel' = k + 1 := ⟨fuel' - 1, by omega⟩
    have hfuel : fuel ≤ fuel' := Nat.le_of_succ_le_succ hfuel
    cases s with
    | nil => cases h
    | cons c rest =>
      -- Both tests of a step look at a fixed mark, and neither mark holds a line break.
      have hcloses := isPrefixOf_append_newline hclosing (c :: rest) v
      have hopens := isPrefixOf_append_newline hopening rest v
      rw [List.cons_append] at hcloses
      simp only [List.cons_append, commentWidth, hcloses, hopens] at h ⊢
      split at h
      · rename_i hends
        rw [if_pos hends]
        exact h
      · rename_i hends
        rw [if_neg hends]
        split at h
        · rename_i hopens
          have hlength := (List.isPrefixOf_iff_prefix.mp hopens).length_le
          rw [if_pos hopens, List.drop_append_of_le_length hlength]
          exact ih hfuel h
        · rename_i hopens
          rw [if_neg hopens]
          exact ih hfuel h

/-! ## Phrases -/

/-- A phrase has words, and neither a line nor a statement ends inside one
of them. -/
def IsPhrase (phrase : List String) : Prop :=
  phrase ≠ [] ∧ ∀ word ∈ phrase, word ≠ "" ∧ '\n' ∉ word.toList ∧ ';' ∉ word.toList

instance (phrase : List String) : Decidable (IsPhrase phrase) :=
  inferInstanceAs (Decidable (_ ∧ _))

/-- The phrases that a dialect has of its own are phrases. -/
def Lawful (quotes : Quotes) : Prop :=
  ∀ phrase ∈ quotes.phrases, IsPhrase phrase

/-- Both records that `dialect?` can give are lawful: that of MySQL has one
phrase of its own, and that of Postgres, which all other names share, has
none. -/
theorem lawful_of_dialect? {name : String} {d : Dialect} (h : dialect? name = some d) :
    Lawful d.quotes := by
  unfold dialect? at h
  dsimp only at h
  split at h
  · cases h
    exact List.forall_mem_singleton.mpr (by decide)
  · split at h
    · cases h
      exact nofun
    · cases h

/-- Under a `Lawful` record every phrase that is looked for satisfies
`IsPhrase`: those that all records share are checked here, once, and the
others are by hypothesis. -/
theorem Lawful.isPhrase {quotes : Quotes} (hquotes : Lawful quotes) :
    ∀ phrase ∈ phrases ++ quotes.phrases, IsPhrase phrase := by
  have hphrases : ∀ phrase ∈ phrases, IsPhrase phrase := by decide +kernel
  intro phrase hphrase
  exact (List.mem_append.mp hphrase).elim (hphrases phrase) (hquotes phrase)

/-- A word is compared by `afterWord` with what stands in the text, letter
by letter, and a line break equals no letter of it. -/
theorem afterWord_append {word : List Char} (hword : '\n' ∉ word) (s v : List Char) :
    afterWord word (s ++ '\n' :: v) = (afterWord word s).map (· ++ '\n' :: v) := by
  induction word generalizing s with
  | nil => rfl
  | cons w word ih =>
    obtain ⟨hw, hword⟩ := not_or.mp (mt List.mem_cons.mpr hword)
    cases s with
    | nil => simp [afterWord, hw]
    | cons c s =>
      simp only [List.cons_append, afterWord, ih hword]
      split <;> rfl

/-- What is left behind a word: the lengths add up, and a semicolon that is
not in the word is still to come. The second part lets `phraseWidth_append`
go on to the next word. -/
theorem afterWord_eq_some {word s rest : List Char} (h : afterWord word s = some rest) :
    s.length = word.length + rest.length ∧ (';' ∉ word → ';' ∈ s → ';' ∈ rest) := by
  induction word generalizing s with
  | nil =>
    cases h
    exact ⟨(Nat.zero_add _).symm, fun _ hs => hs⟩
  | cons w word ih =>
    cases s with
    | nil => cases h
    | cons c s =>
      simp only [afterWord] at h
      split at h
      · rename_i hc
        obtain ⟨hlength, hmem⟩ := ih h
        refine ⟨by simp only [List.length_cons]; omega, fun hword hs => ?_⟩
        obtain ⟨hw, hword⟩ := not_or.mp (mt List.mem_cons.mpr hword)
        -- The semicolon is not the letter that was taken.
        rcases List.mem_cons.mp hs with rfl | hs
        · exact absurd (eq_of_beq hc) hw
        · exact hmem hword hs
      · cases h

/-- The words of a phrase are found alike when more lines follow. Blanks
between two words may hold line breaks, so a run of them could go on into
what follows; the semicolon that is still to come stops it. By induction on
the words, each of which `afterWord_append` finds, with the semicolon as
part of the invariant. -/
theorem phraseWidth_append {phrase : List String}
    (hphrase : ∀ word ∈ phrase, word ≠ "" ∧ '\n' ∉ word.toList ∧ ';' ∉ word.toList)
    {s : List Char} (hs : ';' ∈ s) (v : List Char) :
    phraseWidth phrase (s ++ '\n' :: v) = phraseWidth phrase s ∧
      ∀ width ∈ phraseWidth phrase s, width ≤ s.length := by
  induction phrase generalizing s with
  | nil => exact ⟨rfl, by rintro _ ⟨⟩; exact Nat.zero_le _⟩
  | cons word words ih =>
    obtain ⟨⟨-, hnewline, hsemicolon⟩, hwords⟩ := List.forall_mem_cons.mp hphrase
    cases hafter : afterWord word.toList s with
    | none => cases words <;> simp [phraseWidth, afterWord_append hnewline, hafter]
    | some rest =>
      obtain ⟨hlength, hmem⟩ := afterWord_eq_some hafter
      have hrest := hmem hsemicolon hs
      rw [String.length_toList] at hlength
      cases words with
      | nil =>
        -- Behind the last word one character is looked at, and both a line break and the
        -- end of the text end a word.
        have hhead : (rest ++ '\n' :: v).head?.all endsWord = rest.head?.all endsWord := by
          cases rest <;> rfl
        simp only [phraseWidth, afterWord_append hnewline, hafter, Option.map_some,
          Option.bind_eq_bind, Option.bind_some, hhead, true_and]
        intro width hwidth
        split at hwidth
        · cases hwidth
          omega
        · cases hwidth
      | cons next words =>
        -- The blanks in front of the next word end before the semicolon, and so it still
        -- stands behind them.
        have hblanks : ((rest ++ '\n' :: v).takeWhile Text.isBlank).length =
            (rest.takeWhile Text.isBlank).length := by
          rw [Proofs.takeWhile_append_of_mem hrest (by decide)]
        have hle := (List.takeWhile_prefix (l := rest) Text.isBlank).length_le
        have hbehind := Proofs.mem_drop_length_takeWhile (p := Text.isBlank) hrest (by decide)
        obtain ⟨happend, hwidth⟩ := ih hwords hbehind
        simp only [phraseWidth, afterWord_append hnewline, hafter, Option.map_some,
          Option.bind_eq_bind, Option.bind_some, hblanks, List.drop_append_of_le_length hle,
          happend, true_and]
        intro width hfound
        split at hfound
        · cases hfound
        · obtain ⟨width', hwidth', hfound⟩ := Option.bind_eq_some_iff.mp hfound
          cases hfound
          have hle' := hwidth width' hwidth'
          rw [List.length_drop] at hle'
          omega

/-- A phrase takes at least one character, because it has a first word and
that is not empty, which `IsPhrase` asks. -/
theorem phraseWidth_pos {phrase : List String} (hphrase : IsPhrase phrase) {s : List Char}
    {width : Nat} (h : phraseWidth phrase s = some width) : 0 < width := by
  obtain ⟨hne, hwords⟩ := hphrase
  match phrase with
  | [] => exact absurd rfl hne
  | word :: words =>
    have hword : 0 < word.length :=
      Nat.pos_of_ne_zero (mt String.length_eq_zero_iff.mp (List.forall_mem_cons.mp hwords).1.1)
    -- The last word alone, or a word with blanks and further words behind it.
    cases words with
    | nil =>
      simp only [phraseWidth, Option.bind_eq_bind, Option.bind_eq_some_iff] at h
      obtain ⟨rest, -, h⟩ := h
      split at h
      · cases h
        exact hword
      · cases h
    | cons next words =>
      simp only [phraseWidth, Option.bind_eq_bind, Option.bind_eq_some_iff] at h
      obtain ⟨rest, -, h⟩ := h
      split at h
      · cases h
      · obtain ⟨width', -, h⟩ := Option.bind_eq_some_iff.mp h
        cases h
        omega

end SchemaTypes.Sql.Lexer
