import SchemaTypes.Proofs.Runs
import SchemaTypes.Proofs.Text.LowerCase
import SchemaTypes.TypeMap.Canonical

/-!
# `SchemaTypes.Proofs.TypeMap.Canonical`: canonical names are canonical

A type map is asked for a type by its canonical name, and keeps what it
holds under such names. For the two to meet, the canonical name of a
canonical name has to be that name itself. `canonicalName_canonicalName`
states this for every text.

The proof names the form that `normalName` reaches: words of lower-case
characters, joined by single blanks. A text of that form has nothing to
trim, nothing to put in lower case and nothing to split differently. The
list of spellings adds that the names it leads to have this form, and that
none of them is a spelling of its own.
-/

set_option autoImplicit false

namespace SchemaTypes.Text

/-- A word: it is not empty and holds no blank. -/
structure IsWord (word : List Char) : Prop where
  ne_nil : word ≠ []
  noBlank : ∀ c ∈ word, isBlank c = false

/-- The `words` of a text satisfy `IsWord`: not empty and free of blanks. -/
theorem isWord_of_mem_words {s word : List Char} (h : word ∈ words s) : IsWord word := by
  obtain ⟨hpart, hne⟩ := List.mem_filter.mp h
  exact ⟨by simpa using hne, fun c hc => (Proofs.mem_of_mem_splitOnP hpart hc).2⟩

/-- The characters of a word are characters of the text, so what holds of
all characters of a text holds in its `words`. -/
theorem mem_of_mem_words {s word : List Char} (h : word ∈ words s) {c : Char} (hc : c ∈ word) :
    c ∈ s :=
  (Proofs.mem_of_mem_splitOnP (List.mem_filter.mp h).1 hc).1

/-! ### Words joined by single blanks -/

/-- Words with a blank between two of them. -/
abbrev joinWords (ws : List (List Char)) : List Char :=
  List.intercalate [' '] ws

section Joined

variable {ws : List (List Char)} (hws : ∀ word ∈ ws, IsWord word)

include hws

/-- What `joinWords` joins is split into the words again. The blank between
two words ends the first, as no word has one inside. -/
theorem words_joinWords : words (joinWords ws) = ws := by
  cases ws with
  | nil => rfl
  | cons word rest =>
    -- The blank behind a word is the first one, since the word has none.
    have hsplit : (joinWords (word :: rest)).splitOnP isBlank = word :: rest := by
      induction rest generalizing word with
      | nil =>
        rw [joinWords, List.intercalate_singleton]
        exact List.splitOnP_eq_singleton (hws word List.mem_cons_self).noBlank
      | cons next rest ih =>
        rw [joinWords, List.intercalate_cons_cons, List.append_assoc, List.singleton_append,
          List.splitOnP_append_cons_of_forall_mem (hws word List.mem_cons_self).noBlank ' ' rfl]
        exact congrArg (word :: ·) (ih next fun w hw => hws w (List.mem_cons_of_mem _ hw))
    unfold words
    rw [hsplit, List.filter_eq_self]
    intro w hw
    simpa using (hws w hw).ne_nil

/-- Joined words start with a character of the first word, so there is
nothing to trim in front (`trim_joinWords`). -/
theorem head?_joinWords_ne_blank {c : Char} (hc : (joinWords ws).head? = some c) :
    isBlank c = false := by
  cases ws with
  | nil => nomatch hc
  | cons word rest =>
    have hword := hws word List.mem_cons_self
    obtain ⟨first, more, rfl⟩ := List.exists_cons_of_ne_nil hword.ne_nil
    rw [joinWords, List.intercalate_cons_cons_left] at hc
    obtain rfl : first = c := Option.some.inj hc
    exact hword.noBlank first List.mem_cons_self

/-- Joined words end with a character of the last word, so there is nothing
to trim behind (`trim_joinWords`). -/
theorem getLast?_joinWords_ne_blank {c : Char} (hc : (joinWords ws).getLast? = some c) :
    isBlank c = false := by
  induction ws with
  | nil => nomatch hc
  | cons word rest ih =>
    have hword := hws word List.mem_cons_self
    cases rest with
    | nil =>
      rw [joinWords, List.intercalate_singleton] at hc
      exact hword.noBlank c (List.mem_of_getLast? hc)
    | cons next rest =>
      have hrest : ∀ w ∈ next :: rest, IsWord w := fun w hw => hws w (List.mem_cons_of_mem _ hw)
      have hnext := hws next (List.mem_cons_of_mem _ List.mem_cons_self)
      refine ih hrest ?_
      -- The rest has a last character, so the word in front does not decide.
      obtain ⟨first, more, rfl⟩ := List.exists_cons_of_ne_nil hnext.ne_nil
      rw [joinWords, List.intercalate_cons_cons, List.getLast?_append,
        List.intercalate_cons_cons_left, List.getLast?_cons, Option.some_or] at hc
      rw [joinWords, List.intercalate_cons_cons_left, List.getLast?_cons]
      exact hc

/-- Joined words have no blanks at their ends, so `trim` does nothing to
them. -/
theorem trim_joinWords : trim (joinWords ws) = joinWords ws := by
  have hkeep : ∀ s : List Char, (∀ c, s.head? = some c → isBlank c = false) →
      s.dropWhile isBlank = s := by
    intro s hs
    cases s with
    | nil => rfl
    | cons c rest => exact List.dropWhile_cons_of_neg (by simp [hs c rfl])
  unfold trim trimRight
  rw [hkeep _ fun c hc => head?_joinWords_ne_blank hws hc, hkeep, List.reverse_reverse]
  intro c hc
  rw [List.head?_reverse] at hc
  exact getLast?_joinWords_ne_blank hws hc

end Joined

/-- The text that `joinWords` makes has the characters of the words and
blanks between them, and no others. -/
theorem mem_joinWords {ws : List (List Char)} {c : Char} (hc : c ∈ joinWords ws) :
    c = ' ' ∨ ∃ word ∈ ws, c ∈ word := by
  induction ws with
  | nil => nomatch hc
  | cons word rest ih =>
    cases rest with
    | nil =>
      rw [joinWords, List.intercalate_singleton] at hc
      exact Or.inr ⟨word, List.mem_cons_self, hc⟩
    | cons next rest =>
      rw [joinWords, List.intercalate_cons_cons, List.mem_append, List.mem_append,
        List.mem_singleton] at hc
      -- In the first word, the blank behind it, or the rest.
      rcases hc with (hword | hblank) | hrest
      · exact Or.inr ⟨word, List.mem_cons_self, hword⟩
      · exact Or.inl hblank
      · rcases ih hrest with hblank | ⟨w, hw, hcw⟩
        · exact Or.inl hblank
        · exact Or.inr ⟨w, List.mem_cons_of_mem _ hw, hcw⟩

end SchemaTypes.Text

namespace SchemaTypes.TypeMap

open Text

/-- A name of lower-case words with single blanks between them. -/
def IsNormal (name : String) : Prop :=
  ∃ ws : List (List Char), (∀ word ∈ ws, IsWord word ∧ ∀ c ∈ word, IsLowered c) ∧
    name = String.ofList (joinWords ws)

/-- The steps to the `normalName` in one line: trim, lower, split into
words, join the words with single blanks. -/
theorem normalName_eq (name : String) :
    normalName name = String.ofList (joinWords (words (lowerFrom [] (trim name.toList)))) := by
  simp only [normalName, lower, String.toList_ofList]

/-- The canonical name is the one that a spelling stands for, or the
`normalName` if it is no known spelling. -/
theorem canonicalName_eq (name : String) :
    canonicalName name = (spellings.lookup (normalName name)).getD (normalName name) :=
  rfl

/-- The normal name is normal. Its words come from a lowered text, so they
are lowered; for this `isLowered_of_mem_lowerFrom` has to hold of every
character, also where lowering looks at its neighbours. -/
theorem isNormal_normalName (name : String) : IsNormal (normalName name) := by
  refine ⟨_, ?_, normalName_eq name⟩
  intro word hword
  exact ⟨isWord_of_mem_words hword,
    fun c hc => isLowered_of_mem_lowerFrom (mem_of_mem_words hword hc)⟩

/-- A name that is `IsNormal` has nothing to trim, to lower or to split, so
it is its own normal name. -/
theorem normalName_of_isNormal {name : String} (h : IsNormal name) : normalName name = name := by
  obtain ⟨ws, hws, rfl⟩ := h
  have hword : ∀ word ∈ ws, IsWord word := fun word hw => (hws word hw).1
  have hlowered : ∀ c ∈ joinWords ws, IsLowered c := by
    intro c hc
    rcases mem_joinWords hc with rfl | ⟨word, hw, hcw⟩
    · decide
    · exact (hws word hw).2 c hcw
  rw [normalName_eq, String.toList_ofList, trim_joinWords hword, lowerFrom_eq_self hlowered,
    words_joinWords hword]

/-- Every name that one of the `spellings` leads to is canonical already.
The list is gone through by computation. -/
theorem canonicalName_of_mem_spellings :
    ∀ entry ∈ spellings, canonicalName entry.2 = entry.2 := by
  decide +kernel

/-- **The canonical name of a canonical name is itself.** It is the normal
name of something that is no known spelling, or a name that some spelling
leads to; `normalName_of_isNormal` settles the first case and the table of
spellings the second. -/
theorem canonicalName_canonicalName (name : String) :
    canonicalName (canonicalName name) = canonicalName name := by
  -- A name that is no known spelling stays normal, and a target of one is canonical.
  cases hspelling : spellings.lookup (normalName name) with
  | none =>
    have hname : canonicalName name = normalName name := by
      rw [canonicalName_eq, hspelling, Option.getD_none]
    have hnormal := normalName_of_isNormal (isNormal_normalName name)
    rw [hname, canonicalName_eq, hnormal, hspelling, Option.getD_none]
  | some target =>
    have hname : canonicalName name = target := by
      rw [canonicalName_eq, hspelling, Option.getD_some]
    obtain ⟨before, after, hentry, -⟩ := List.lookup_eq_some_iff.mp hspelling
    have hmem : (normalName name, target) ∈ spellings := by
      rw [hentry]
      exact List.mem_append_right _ List.mem_cons_self
    rw [hname]
    exact canonicalName_of_mem_spellings (normalName name, target) hmem

end SchemaTypes.TypeMap
