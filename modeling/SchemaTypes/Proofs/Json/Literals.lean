import SchemaTypes.Json.Printer
import SchemaTypes.Json.Reader

/-!
# `SchemaTypes.Proofs.Json.Literals`: literals are read back

The reader inverts the printer on string literals and integers, one
character class at a time.

* `readString_literal`: what stands between the quotes of a literal is
  read as the text it was written from. The escapes are read one by one
  (`readUnits_escapeChar`), and characters are never surrogates, so no two
  of them are taken for a pair.
* `readScalar_integerText`: an integer is read back if no digit, point or
  exponent follows. `Delimited` says so of the text behind it, in terms of
  what can stand behind a value.

String literals hold no control (`le_toNat_of_mem_literal`), so neither
kind of literal holds a carriage return.
-/

set_option autoImplicit false

namespace SchemaTypes.Json

/-! ### String literals -/

/-- An escape by a letter is read as what the letter stands for, which
`escaped?` tells. The letter is not the one for codes, as that stands for no
character. -/
theorem readUnits_letter {letter c : Char} (h : escaped? letter = some c) (s : List Char) :
    readUnits ('\\' :: letter :: s) =
      (readUnits s).map fun read => (c.toNat :: read.1, read.2) := by
  have hletter : letter ≠ 'u' := by
    rintro rfl
    nomatch h
  rw [readUnits]
  · rw [h]
    cases readUnits s <;> rfl
  · intro _ _ _ _ _ hu
    exact absurd hu hletter

/-- An escape by a code of four digits is read as the code, which
`hexValue?` puts together. -/
theorem readUnits_code {a b c d : Char} {unit : Nat} (h : hexValue? a b c d = some unit)
    (s : List Char) :
    readUnits ('\\' :: 'u' :: a :: b :: c :: d :: s) =
      (readUnits s).map fun read => (unit :: read.1, read.2) := by
  rw [readUnits, h]
  cases readUnits s <;> rfl

/-- A character that needs no escape is read by `readUnits` as itself. -/
theorem readUnits_self {c : Char} (hcontrol : ¬ c.toNat < 0x20) (hquote : c ≠ '"')
    (hbackslash : c ≠ '\\') (s : List Char) :
    readUnits (c :: s) = (readUnits s).map fun read => (c.toNat :: read.1, read.2) := by
  rw [readUnits]
  · rw [if_neg (by simp [hcontrol, hbackslash])]
    cases readUnits s <;> rfl
  · exact hquote
  · intro _ _ _ _ _ hc
    exact absurd hc hbackslash
  · intro _ _ hc
    exact absurd hc hbackslash

/-- The code of a control is read back from the four digits that
`Text.hexadecimal` writes. The controls are few enough to check the code of
each. -/
theorem hexValue?_hexadecimal : ∀ n < 0x20,
    (match Text.hexadecimal 4 n with
      | [a, b, c, d] => hexValue? a b c d
      | _ => none) = some n := by
  decide +kernel

/-- An escape is read as the character that it stands for. The cases are
those of `escapeChar`: seven letters, the codes of the other controls, and
the characters that stand for themselves. -/
theorem readUnits_escapeChar (c : Char) (s : List Char) :
    readUnits (escapeChar c ++ s) =
      (readUnits s).map fun read => (c.toNat :: read.1, read.2) := by
  -- Seven characters have an escape by a letter.
  by_cases hquote : c = '"'
  · subst hquote
    exact readUnits_letter rfl s
  by_cases hbackslash : c = '\\'
  · subst hbackslash
    exact readUnits_letter rfl s
  by_cases hnewline : c = '\n'
  · subst hnewline
    exact readUnits_letter rfl s
  by_cases hreturn : c = '\r'
  · subst hreturn
    exact readUnits_letter rfl s
  by_cases htab : c = '\t'
  · subst htab
    exact readUnits_letter rfl s
  by_cases hbackspace : c.toNat = 0x8
  · obtain rfl : c = '\x08' := Char.toNat_inj.mp hbackspace
    exact readUnits_letter rfl s
  by_cases hfeed : c.toNat = 0xC
  · obtain rfl : c = '\x0c' := Char.toNat_inj.mp hfeed
    exact readUnits_letter rfl s
  -- The other controls are written by their codes, and the rest as they are.
  by_cases hcontrol : c.toNat < 0x20
  · have hcode := hexValue?_hexadecimal c.toNat hcontrol
    split at hcode
    next a b d e hdigits =>
      simp only [escapeChar, beq_iff_eq, hquote, hbackslash, hnewline, hreturn, htab, hbackspace,
        hfeed, hcontrol, if_false, if_true, hdigits]
      exact readUnits_code hcode s
    next => nomatch hcode
  · simp only [escapeChar, beq_iff_eq, hquote, hbackslash, hnewline, hreturn, htab, hbackspace,
      hfeed, hcontrol, if_false]
    exact readUnits_self hcontrol hquote hbackslash s

/-- A text in escapes is read back up to the quote behind it, by induction
on the text with `readUnits_escapeChar` for each character. -/
theorem readUnits_literal (s rest : List Char) :
    readUnits (s.flatMap escapeChar ++ '"' :: rest) = some (s.map Char.toNat, rest) := by
  induction s with
  | nil => rfl
  | cons c s ih =>
    rw [List.flatMap_cons, List.append_assoc, readUnits_escapeChar, ih]
    rfl

/-- No character is half of a surrogate pair, so units that are read from
characters are never joined to pairs. The case of pairs in `joinUnits` is
thereby ruled out. -/
theorem not_surrogate (c : Char) : ¬ (0xD800 ≤ c.toNat ∧ c.toNat < 0xE000) := by
  have hvalid : c.toNat < 0xD800 ∨ 0xDFFF < c.toNat ∧ c.toNat < 0x110000 := c.valid
  omega

/-- The unit of a character is read by `unitChar` as the character, because
it is no surrogate (`not_surrogate`). -/
theorem unitChar_toNat (c : Char) : unitChar c.toNat = c := by
  rw [unitChar, if_neg (by simpa using not_surrogate c), Char.ofNat_toNat]

/-- The units of characters are joined to these characters: by
`not_surrogate` no two of them make a pair. -/
theorem joinUnits_map_toNat : ∀ s : List Char, joinUnits (s.map Char.toNat) = s
  | [] => rfl
  | [c] => congrArg (fun c => [c]) (unitChar_toNat c)
  | c :: d :: s => by
    have hpair := not_surrogate c
    have ih := joinUnits_map_toNat (d :: s)
    rw [List.map_cons, List.map_cons, joinUnits, ← List.map_cons, ih, unitChar_toNat,
      if_neg (by simp only [Bool.and_eq_true, decide_eq_true_eq]; omega)]

/-- What `escapeChar` has written is read back as a string up to its closing
quote, whatever follows. All further readers of literals, those of property
keys and of enum values included, rest on this. -/
theorem readString_literal (s : String) (rest : List Char) :
    readString (s.toList.flatMap escapeChar ++ '"' :: rest) = some (s, rest) := by
  rw [readString, readUnits_literal]
  show some (String.ofList (joinUnits (s.toList.map Char.toNat)), rest) = _
  rw [joinUnits_map_toNat, String.ofList_toList]

/-! ### Integers -/

/-- Whether a character can stand behind a value. -/
def isDelimiter (c : Char) : Bool :=
  c == ',' || c == ']' || c == '}' || isGap c

/-- A text that does not carry a value on that stands in front of it. -/
def Delimited (rest : List Char) : Prop :=
  ∀ c ∈ rest.head?, isDelimiter c = true

/-- A text is `Delimited` if its first character ends a number. -/
theorem delimited_cons {c : Char} (hc : isDelimiter c = true) (rest : List Char) :
    Delimited (c :: rest) := by
  rintro _ ⟨⟩
  exact hc

/-- A character of a kind is none that is not of that kind. Digits,
delimiters and gaps are told apart with this. -/
theorem ne_of_kind {kind : Char → Bool} {c d : Char} (hc : kind c = true) (hd : kind d = false) :
    d ≠ c := by
  rintro rfl
  rw [hc] at hd
  nomatch hd

/-- A digit does not end a number, so `readWhole` goes on over it. -/
theorem isDelimiter_of_isDigit {c : Char} (h : c.isDigit = true) : isDelimiter c = false := by
  have hne : ∀ d : Char, d.isDigit = false → c ≠ d := fun d hd => (ne_of_kind h hd).symm
  simp [isDelimiter, isGap, hne ',' rfl, hne ']' rfl, hne '}' rfl, hne ' ' rfl, hne '\t' rfl,
    hne '\n' rfl, hne '\r' rfl]

namespace Delimited

variable {rest : List Char} (h : Delimited rest)

include h

/-- A delimiter starts no fraction, so `readMagnitude` finds an integer. -/
theorem readFraction_eq_none : readFraction rest = none := by
  cases rest with
  | nil => rfl
  | cons c rest =>
    rw [readFraction]
    rintro _ ⟨⟩
    exact absurd (h '.' rfl) (by decide)

/-- A delimiter starts no exponent, which is what `readMagnitude` looks for
last. -/
theorem readExponent_eq_none : readExponent rest = none := by
  cases rest with
  | nil => rfl
  | cons c rest =>
    have hlower : c ≠ 'e' := (ne_of_kind (h c rfl) rfl).symm
    have hupper : c ≠ 'E' := (ne_of_kind (h c rfl) rfl).symm
    simp only [readExponent, beq_eq_false_iff_ne.mpr hlower, beq_eq_false_iff_ne.mpr hupper,
      Bool.or_self, Bool.false_and, if_neg Bool.false_ne_true]

/-- The digits in front of a delimiter are taken, and no more: what follows
is `Delimited`. -/
theorem span_digits {digits : List Char} (hdigits : ∀ c ∈ digits, c.isDigit = true) :
    (digits ++ rest).takeWhile Char.isDigit = digits ∧
      (digits ++ rest).dropWhile Char.isDigit = rest := by
  rw [List.takeWhile_append_of_pos hdigits, List.dropWhile_append_of_pos hdigits]
  cases rest with
  | nil => exact ⟨List.append_nil _, rfl⟩
  | cons c rest =>
    have hc : ¬ c.isDigit = true := by
      intro hdigit
      exact ne_of_kind (h c rfl) (isDelimiter_of_isDigit hdigit) rfl
    rw [List.takeWhile_cons_of_neg hc, List.dropWhile_cons_of_neg hc, List.append_nil]
    exact ⟨rfl, rfl⟩

end Delimited

/-- The notation of a number starts with a digit, and only that of zero
starts with the digit zero. `readWhole` takes a leading zero for the whole
number. -/
theorem exists_toDigits_eq_cons (n : Nat) :
    ∃ c digits, Nat.toDigits 10 n = c :: digits ∧ c.isDigit = true ∧ (c = '0' → n = 0) := by
  induction n using Nat.strongRecOn with
  | ind n ih =>
    by_cases hn : n < 10
    · exact ⟨Nat.digitChar n, [], Nat.toDigits_of_lt_base hn, by simpa using hn,
        Nat.digitChar_eq_zero.mp⟩
    · obtain ⟨c, digits, hdigits, hdigit, hzero⟩ := ih (n / 10) (by omega)
      refine ⟨c, digits ++ [Nat.digitChar (n % 10)], ?_, hdigit, fun hc => ?_⟩
      · rw [Nat.toDigits_of_base_le (by decide) (by omega), hdigits]
        rfl
      · have := hzero hc
        omega

/-- The digits of a number are read in full in front of a delimiter, by
`span_digits`, or as the single zero. -/
theorem readWhole_toDigits (n : Nat) {rest : List Char} (hrest : Delimited rest) :
    readWhole (Nat.toDigits 10 n ++ rest) = (Nat.toDigits 10 n, rest) := by
  by_cases hn : n = 0
  · subst hn
    rfl
  · obtain ⟨c, digits, hdigits, -, hzero⟩ := exists_toDigits_eq_cons n
    have hspan := hrest.span_digits fun c (hc : c ∈ Nat.toDigits 10 n) =>
      Nat.isDigit_of_mem_toDigits (by decide) (by decide) hc
    rw [hdigits, List.cons_append] at hspan ⊢
    rw [readWhole, hspan.1, hspan.2]
    rintro _ heq
    exact hn (hzero (List.cons.inj heq).1)

/-- A number without its sign is read back as an integer, since neither a
fraction nor an exponent follows (`readFraction_eq_none`,
`readExponent_eq_none`). -/
theorem readMagnitude_toDigits (negative : Bool) (n : Nat) {rest : List Char}
    (hrest : Delimited rest) :
    readMagnitude negative (Nat.toDigits 10 n ++ rest) =
      some (.int (if negative then -(n : Int) else n), rest) := by
  have hvalue : decimalValue (Nat.toDigits 10 n) = n := Nat.ofDigitChars_ten_toDigits
  have hne : (Nat.toDigits 10 n).isEmpty = false := by
    simp
  simp only [readMagnitude, readWhole_toDigits n hrest, hne, hrest.readFraction_eq_none,
    Option.map_none, Option.getD_none, Option.isSome_none, hrest.readExponent_eq_none, hvalue]
  rfl

/-- The words for values, spelled out. None of them starts like an integer,
which `readWord_digit` and `readWord_minus` use. -/
theorem valueWords_eq : valueWords =
    [(['n', 'u', 'l', 'l'], .null), (['t', 'r', 'u', 'e'], .bool true),
     (['f', 'a', 'l', 's', 'e'], .bool false), (['N', 'a', 'N'], .real .nan),
     (['I', 'n', 'f', 'i', 'n', 'i', 't', 'y'], .real (.infinite false)),
     (['-', 'I', 'n', 'f', 'i', 'n', 'i', 't', 'y'], .real (.infinite true))] :=
  rfl

/-- A digit starts none of the words for a value, which `valueWords_eq`
lists. -/
theorem readWord_digit {c : Char} (hc : c.isDigit = true) (s : List Char) :
    readWord (c :: s) = none := by
  simp [readWord, valueWords_eq, ne_of_kind hc]

/-- Nor do a minus and a digit: the one word of `valueWords_eq` with a minus
has a letter behind it. -/
theorem readWord_minus {c : Char} (hc : c.isDigit = true) (s : List Char) :
    readWord ('-' :: c :: s) = none := by
  simp [readWord, valueWords_eq, ne_of_kind hc]

/-- An integer is read back in front of a text that does not carry it on, in
two cases for the sign, of which `readMagnitude_toDigits` reads what
follows. -/
theorem readScalar_integerText (n : Int) {rest : List Char} (hrest : Delimited rest) :
    readScalar (integerText n ++ rest) = some (.int n, rest) := by
  cases n with
  | ofNat n =>
    have hread := readMagnitude_toDigits false n hrest
    obtain ⟨c, digits, hdigits, hc, -⟩ := exists_toDigits_eq_cons n
    rw [integerText]
    rw [hdigits, List.cons_append] at hread ⊢
    rw [readScalar, readWord_digit hc]
    · exact hread
    · rintro _ heq
      exact ne_of_kind hc rfl (List.cons.inj heq).1.symm
  | negSucc n =>
    -- The sign is taken off first.
    have hread := readMagnitude_toDigits true (n + 1) hrest
    obtain ⟨c, digits, hdigits, hc, -⟩ := exists_toDigits_eq_cons (n + 1)
    rw [integerText, List.cons_append]
    rw [hdigits, List.cons_append] at hread ⊢
    rw [readScalar, readWord_minus hc]
    exact hread

/-- The `integerText` starts with a digit or with a sign, and so not like a
string, an array or an object. -/
theorem exists_integerText_eq_cons (n : Int) :
    ∃ c s, integerText n = c :: s ∧ (c.isDigit = true ∨ c = '-') := by
  cases n with
  | ofNat n =>
    obtain ⟨c, digits, hdigits, hc, -⟩ := exists_toDigits_eq_cons n
    exact ⟨c, digits, hdigits, Or.inl hc⟩
  | negSucc n => exact ⟨'-', _, rfl, Or.inr rfl⟩

/-! ### Controls -/

/-- The codes of the controls, as `Text.hexadecimal` writes them, are made
of digits and letters, none of which is a control itself. -/
theorem le_toNat_of_mem_hexadecimal {n : Nat} (hn : n < 0x20) {d : Char}
    (h : d ∈ Text.hexadecimal 4 n) : 0x20 ≤ d.toNat := by
  have hcodes : ((List.range 0x20).all fun n =>
      (Text.hexadecimal 4 n).all fun d => decide (0x20 ≤ d.toNat)) = true := by rfl
  simp only [List.all_eq_true, List.mem_range, decide_eq_true_eq] at hcodes
  exact hcodes n hn d h

/-- A control does not stand for itself, and `escapeChar` makes no escape
with one. -/
theorem le_toNat_of_mem_escapeChar {c d : Char} (h : d ∈ escapeChar c) : 0x20 ≤ d.toNat := by
  have hletters : ∀ {escape : List Char}, (escape.all fun e => decide (0x20 ≤ e.toNat)) = true →
      d ∈ escape → 0x20 ≤ d.toNat :=
    fun hescape hd => of_decide_eq_true (List.all_eq_true.mp hescape d hd)
  -- Seven escapes by a letter, then the codes, then what stands for itself.
  unfold escapeChar at h
  split at h
  · exact hletters rfl h
  split at h
  · exact hletters rfl h
  split at h
  · exact hletters rfl h
  split at h
  · exact hletters rfl h
  split at h
  · exact hletters rfl h
  split at h
  · exact hletters rfl h
  split at h
  · exact hletters rfl h
  split at h
  next hcontrol =>
    rcases List.mem_cons.mp h with rfl | h
    · decide
    rcases List.mem_cons.mp h with rfl | h
    · decide
    exact le_toNat_of_mem_hexadecimal hcontrol h
  next hcontrol =>
    obtain rfl : d = c := List.mem_singleton.mp h
    exact Nat.le_of_not_lt hcontrol

/-- A string literal holds no control: its quotes are none, and what stands
between them is made by `escapeChar`. -/
theorem le_toNat_of_mem_literal {s : List Char} {d : Char} (h : d ∈ literal s) :
    0x20 ≤ d.toNat := by
  simp only [literal, List.cons_append, List.mem_cons, List.mem_append, List.mem_flatMap,
    List.not_mem_nil, or_false] at h
  rcases h with rfl | ⟨c, -, hd⟩ | rfl
  · decide
  · exact le_toNat_of_mem_escapeChar hd
  · decide

/-- A string literal has no carriage return, which is a control
(`le_toNat_of_mem_literal`). -/
theorem return_notMem_literal (s : List Char) : '\r' ∉ literal s :=
  fun h => absurd (le_toNat_of_mem_literal h) (by decide)

/-- An integer has no carriage return, as `integerText` is made of digits
and a sign. -/
theorem return_notMem_integerText (n : Int) : '\r' ∉ integerText n := by
  have hdigits : ∀ n, '\r' ∉ Nat.toDigits 10 n := fun n hmem =>
    absurd (Nat.isDigit_of_mem_toDigits (by decide) (by decide) hmem) (by decide)
  cases n with
  | ofNat n => exact hdigits n
  | negSucc n => simpa [integerText] using hdigits (n + 1)

end SchemaTypes.Json
