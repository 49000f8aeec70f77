import Mathlib.Data.List.Infix
import SchemaTypes.Model.Naming

/-!
# `SchemaTypes.Proofs.Model.SnakeCase`: type names keep snake case names apart

A type name is made by dropping characters: an underscore in front of a
small letter goes, and the letter becomes a capital. Nothing is lost by
this as long as the capitals tell where an underscore was and how many
there were. The first character is treated by itself, underscores in front
of a digit or at the end stay, and a whole run goes with one letter.

`snakeName` undoes the conversion with one rule: behind the first
character, a capital stands for an underscore and a small letter.
`snake_case_recovered` shows that this gives back every name over small
letters, digits and underscores, if no run of two or more underscores is
followed by a letter. `splitWords_joinWords` carries the proof; it is about
the rest of a name, together with the underscores that have been read and
not yet written.
-/

set_option autoImplicit false

namespace SchemaTypes.Naming

/-- A character of a name in snake case. -/
def IsSnakeChar (c : Char) : Prop :=
  isSmallLetter c = true ∨ c.isDigit = true ∨ c = '_'

/-- A name of small letters, digits and underscores, in which no run of two
or more underscores is followed by a letter. -/
structure IsSnakeCase (name : String) : Prop where
  chars : ∀ c ∈ name.toList, IsSnakeChar c
  runs : ∀ c, isSmallLetter c = true → ¬ ['_', '_', c] <:+: name.toList

instance (c : Char) : Decidable (IsSnakeChar c) :=
  inferInstanceAs (Decidable (_ ∨ _ ∨ _))

-- A letter behind two underscores is a character of the name, so it is enough to look at these.
instance (name : String) : Decidable (IsSnakeCase name) :=
  decidable_of_iff (name.toList.all (fun c => decide (IsSnakeChar c)) = true ∧
      name.toList.all (fun c => decide (isSmallLetter c = true →
        ¬ ['_', '_', c] <:+: name.toList)) = true) <| by
    simp only [List.all_eq_true, decide_eq_true_eq]
    exact ⟨fun h => ⟨h.1, fun c hc hrun => h.2 c (hrun.subset (by simp)) hc hrun⟩,
      fun h => ⟨h.chars, fun c _ => h.runs c⟩⟩

/-- What a character of a type name stands for, behind the first one. -/
def splitWord (c : Char) : List Char :=
  if c.isUpper then ['_', c.toLower] else [c]

/-- The name in snake case that a type name stands for. -/
def snakeName (type : String) : String :=
  match type.toList with
  | [] => ""
  | c :: rest => String.ofList (c.toLower :: rest.flatMap splitWord)

/-- A name in capitalised words: it does not start with a small letter, and
behind its first character no underscore is followed by one. -/
structure IsCapitalised (type : String) : Prop where
  first : ∀ c, type.toList.head? = some c → isSmallLetter c = false
  rest : ∀ c, isSmallLetter c = true → ¬ ['_', c] <:+: type.toList.tail

/-! ### Characters -/

/-- Characters of names in snake case are ASCII, so their upper-case form
needs no table, and what is said of them can be checked code by code
(`IsSnakeChar.of_codes`). -/
theorem IsSnakeChar.toNat_lt {c : Char} (h : IsSnakeChar c) : c.toNat < 0x80 := by
  rcases h with hletter | hdigit | rfl
  · have hle : c ≤ 'z' := by simpa using (Bool.and_eq_true_iff.mp hletter).2
    exact Nat.lt_of_le_of_lt (UInt32.le_iff_toNat_le.mp (Char.le_def.mp hle)) (by decide)
  · have hle : c.val ≤ 57 := by simpa using (Bool.and_eq_true_iff.mp hdigit).2
    exact Nat.lt_of_le_of_lt (UInt32.le_iff_toNat_le.mp hle) (by decide)
  · decide

/-- What holds of the characters with the codes of ASCII holds of every
character of a name in snake case. The hypothesis is a bounded statement
about numbers, which `decide` settles. -/
theorem IsSnakeChar.of_codes {p : Char → Prop}
    (hcodes : ∀ n < 0x80, IsSnakeChar (Char.ofNat n) → p (Char.ofNat n)) {c : Char}
    (h : IsSnakeChar c) : p c := by
  have hcode := hcodes c.toNat h.toNat_lt
  rw [Char.ofNat_toNat] at hcode
  exact hcode h

/-- No character of such a name is a capital, so `splitWord` leaves it as
it is and `Char.toLower` does too. -/
theorem IsSnakeChar.not_isUpper {c : Char} (h : IsSnakeChar c) : ¬ c.isUpper :=
  IsSnakeChar.of_codes (p := fun c => ¬ c.isUpper) (by decide) h

/-- The upper-case form of an `IsSnakeChar` leads back to it, which undoes
the treatment of the first character of a name. -/
theorem IsSnakeChar.toLower_toUpper {c : Char} (h : IsSnakeChar c) : c.toUpper.toLower = c :=
  IsSnakeChar.of_codes (p := fun c => c.toUpper.toLower = c) (by decide) h

/-- The upper-case form of an `IsSnakeChar` is no small letter, so a type
name does not start with one. -/
theorem IsSnakeChar.isSmallLetter_toUpper {c : Char} (h : IsSnakeChar c) :
    isSmallLetter c.toUpper = false :=
  IsSnakeChar.of_codes (p := fun c => isSmallLetter c.toUpper = false) (by decide) h

/-- A small letter has a capital. This is how an underscore that `joinWords`
drops leaves a trace. -/
theorem isUpper_toUpper {c : Char} (h : isSmallLetter c = true) : c.toUpper.isUpper = true :=
  IsSnakeChar.of_codes (p := fun c => isSmallLetter c = true → c.toUpper.isUpper = true)
    (by decide) (Or.inl h) h

/-- The upper-case form of such a character is the one of `Char.toUpper`, as
the table for longer forms is asked only outside ASCII. -/
theorem IsSnakeChar.upperChar_eq {c : Char} (h : IsSnakeChar c) :
    Text.upperChar c = [c.toUpper] :=
  if_pos h.toNat_lt

/-- A character that is no capital stands for itself in `splitWord`. -/
theorem splitWord_of_isSnakeChar {c : Char} (h : IsSnakeChar c) : splitWord c = [c] :=
  if_neg h.not_isUpper

/-- A capital stands for an underscore and its small letter, which is what
`joinWords` made it from. -/
theorem splitWord_toUpper {c : Char} (h : isSmallLetter c = true) :
    splitWord c.toUpper = ['_', c] := by
  rw [splitWord, if_pos (isUpper_toUpper h), IsSnakeChar.toLower_toUpper (Or.inl h)]

/-- Underscores that were kept stand for themselves in `splitWord`. -/
theorem flatMap_splitWord_underscores (n : Nat) :
    (List.replicate n '_').flatMap splitWord = List.replicate n '_' := by
  induction n with
  | zero => rfl
  | succ n ih =>
    rw [List.replicate_succ, List.flatMap_cons, ih]
    rfl

/-! ### The rest of a name -/

/-- Splitting by `splitWord` gives back what `joinWords` has joined, with
the underscores that had been read before. -/
theorem splitWords_joinWords {held : Nat} {s : List Char} (hchars : ∀ c ∈ s, IsSnakeChar c)
    (hruns : ∀ c, isSmallLetter c = true → ¬ ['_', '_', c] <:+: List.replicate held '_' ++ s) :
    (joinWords held s).flatMap splitWord = List.replicate held '_' ++ s := by
  fun_induction joinWords held s with
  | case1 held => rw [flatMap_splitWord_underscores, List.append_nil]
  | case2 held c rest hc ih =>
    -- The underscore changes sides and the text stays the same.
    obtain rfl : c = '_' := eq_of_beq hc
    have htext : List.replicate (held + 1) '_' ++ rest =
        List.replicate held '_' ++ '_' :: rest := by
      rw [List.replicate_succ', List.append_assoc]
      rfl
    rw [← htext] at hruns ⊢
    exact ih (fun c hc => hchars c (List.mem_cons_of_mem _ hc)) hruns
  | case3 held c rest hc hletter ih =>
    obtain ⟨hheld, hletter⟩ : 0 < held ∧ isSmallLetter c = true := by simpa using hletter
    -- The letter stands for one underscore, so there must not be more.
    have hone : held = 1 := by
      refine Nat.le_antisymm (Nat.le_of_not_lt fun hmore => ?_) hheld
      obtain ⟨n, rfl⟩ : ∃ n, held = n + 2 := ⟨held - 2, by omega⟩
      refine hruns c hletter ⟨List.replicate n '_', rest, ?_⟩
      simp [List.replicate_succ']
    subst hone
    have hrest := ih (fun c hc => hchars c (List.mem_cons_of_mem _ hc))
      fun d hd hrun => hruns d hd (hrun.trans ⟨['_', c], [], by simp⟩)
    rw [List.flatMap_cons, splitWord_toUpper hletter, hrest]
    rfl
  | case4 held c rest hc hletter ih =>
    have hrest := ih (fun c hc => hchars c (List.mem_cons_of_mem _ hc))
      fun d hd hrun => hruns d hd (hrun.trans ⟨List.replicate held '_' ++ [c], [], by simp⟩)
    rw [List.flatMap_append, List.flatMap_cons, flatMap_splitWord_underscores,
      splitWord_of_isSnakeChar (hchars c List.mem_cons_self), hrest]
    rfl

section Infix

variable {d : Char} (hd : isSmallLetter d = true)

include hd

/-- Underscores in front of a text bring no underscore before `d`, unless
the last of them meets a `d` at the start of the text. The character `d` is
a small letter and so no underscore itself. -/
theorem not_infix_underscores {l : List Char} (hl : ¬ ['_', d] <:+: l) {n : Nat}
    (hmeet : 0 < n → l.head? ≠ some d) : ¬ ['_', d] <:+: List.replicate n '_' ++ l := by
  induction n with
  | zero => exact hl
  | succ n ih =>
    rw [List.replicate_succ, List.cons_append, List.infix_cons_iff, List.cons_prefix_cons]
    rintro (⟨-, hnext⟩ | hlater)
    · -- Behind the first underscore comes the next one, or the rest.
      cases n with
      | zero =>
        obtain ⟨back, rfl⟩ := hnext
        exact hmeet Nat.one_pos rfl
      | succ n =>
        obtain rfl : d = '_' := (List.cons_prefix_cons.mp hnext).1
        exact absurd hd (by decide)
    · exact ih (fun _ => hmeet (Nat.succ_pos n)) hlater

/-- No underscore is left by `joinWords` in front of a small letter. Where
one is read before a letter it is dropped for the capital, and everywhere
else something other than a small letter follows. -/
theorem not_infix_joinWords (held : Nat) (s : List Char) : ¬ ['_', d] <:+: joinWords held s := by
  fun_induction joinWords held s with
  | case1 held =>
    have hnone := not_infix_underscores hd (l := []) (n := held) (by simp) (by simp)
    rwa [List.append_nil] at hnone
  | case2 held c rest hc ih => exact ih
  | case3 held c rest hc hletter ih =>
    rw [List.infix_cons_iff, List.cons_prefix_cons]
    rintro (⟨hcapital, -⟩ | hlater)
    · -- What was written is a capital, which is no underscore.
      have hupper := isUpper_toUpper (Bool.and_eq_true_iff.mp hletter).2
      rw [← hcapital] at hupper
      exact absurd hupper (by decide)
    · exact ih hlater
  | case4 held c rest hc hletter ih =>
    refine not_infix_underscores hd ?_ ?_
    · rw [List.infix_cons_iff, List.cons_prefix_cons]
      rintro (⟨rfl, -⟩ | hlater)
      · exact hc rfl
      · exact ih hlater
    · -- With underscores held back, a small letter would be the third case.
      intro hheld hcd
      obtain rfl : c = d := Option.some.inj hcd
      exact hletter (by simp [hheld, hd])

end Infix

/-! ### Whole names -/

/-- The type name of a name in snake case: its first character in upper
case, and the words of the rest joined by `joinWords` with nothing held
back. -/
theorem typeName_of_isSnakeCase {name : String} (h : IsSnakeCase name) {c : Char}
    {rest : List Char} (hname : name.toList = c :: rest) :
    (typeName name).toList = c.toUpper :: joinWords 0 rest := by
  have hc : IsSnakeChar c := h.chars c (hname ▸ List.mem_cons_self)
  rw [typeName, hname]
  dsimp only
  rw [hc.upperChar_eq, String.toList_ofList]
  rfl

/-- The name is recovered from its type name. The first character is put
back into lower case, and `splitWords_joinWords` recovers the rest. -/
theorem snakeName_typeName {name : String} (h : IsSnakeCase name) :
    snakeName (typeName name) = name := by
  apply String.toList_injective
  cases hname : name.toList with
  | nil =>
    obtain rfl : name = "" := String.toList_injective hname
    rfl
  | cons c rest =>
    have hc : IsSnakeChar c := h.chars c (hname ▸ List.mem_cons_self)
    -- A run of underscores in the rest is one in the whole name.
    have hrest : (joinWords 0 rest).flatMap splitWord = rest := by
      refine splitWords_joinWords (fun d hd => h.chars d (hname ▸ List.mem_cons_of_mem _ hd)) ?_
      intro d hd hrun
      exact h.runs d hd (hname ▸ hrun.trans (List.suffix_cons c rest).isInfix)
    rw [snakeName, typeName_of_isSnakeCase h hname]
    dsimp only
    rw [String.toList_ofList, hc.toLower_toUpper, hrest]

/-- The type name starts with no small letter and has no underscore in front
of one (`not_infix_joinWords`). -/
theorem isCapitalised_typeName {name : String} (h : IsSnakeCase name) :
    IsCapitalised (typeName name) := by
  cases hname : name.toList with
  | nil =>
    obtain rfl : name = "" := String.toList_injective hname
    exact ⟨nofun, fun c _ hinfix => nomatch List.infix_nil.mp hinfix⟩
  | cons c rest =>
    -- The first character is in upper case, and the rest was joined.
    have htype := typeName_of_isSnakeCase h hname
    refine ⟨?_, ?_⟩
    · intro d hd
      rw [htype] at hd
      obtain rfl : c.toUpper = d := Option.some.inj hd
      exact (h.chars c (hname ▸ List.mem_cons_self)).isSmallLetter_toUpper
    · intro d hd
      rw [htype]
      exact not_infix_joinWords hd 0 rest

/-- **Type names keep snake case names apart.** Take names of small
letters, digits and underscores in which no run of two or more underscores
is followed by a letter. The type name is in capitalised words, the name is
recovered from it, and so different names have different type names. -/
theorem snake_case_recovered :
    (∀ name, IsSnakeCase name → IsCapitalised (typeName name) ∧ snakeName (typeName name) = name) ∧
    ∀ a b, IsSnakeCase a → IsSnakeCase b → a ≠ b → typeName a ≠ typeName b := by
  refine ⟨fun name h => ⟨isCapitalised_typeName h, snakeName_typeName h⟩, ?_⟩
  intro a b ha hb hne heq
  apply hne
  rw [← snakeName_typeName ha, ← snakeName_typeName hb, heq]

/-- Underscores in front of digits and at the end stay, and one in front of
a letter comes back. The second name has one underscore less. -/
theorem snake_case_recovered_runs :
    IsSnakeCase "_x_2__3_ab__" ∧ IsSnakeCase "_x_2__3ab__" ∧
    snakeName (typeName "_x_2__3_ab__") = "_x_2__3_ab__" ∧
    typeName "_x_2__3_ab__" ≠ typeName "_x_2__3ab__" := by
  have hname : IsSnakeCase "_x_2__3_ab__" := by decide
  have hother : IsSnakeCase "_x_2__3ab__" := by decide
  exact ⟨hname, hother, (snake_case_recovered.1 _ hname).2,
    snake_case_recovered.2 _ _ hname hother (by decide)⟩

/-- Two underscores in front of a letter are taken for one. -/
example : ¬ IsSnakeCase "a__b" ∧ typeName "a__b" = typeName "a_b" := by
  decide

end SchemaTypes.Naming
