/-!
# `SchemaTypes.Proofs.Runs`: runs at the front of a text

Words, names, numbers and blanks are read as the longest run of
characters of a kind. When a text is continued, a run may grow. Two
lemmas below say when it does not: the run meets a character of another
kind right behind the text (`takeWhile_append_cons`), or already inside
it (`takeWhile_append_of_mem`).

A text can also be read up to a mark (`takeWhile_bne_append`,
`takeWhile_bne_cases`). Where it is split at the characters of a kind, what
stands between them is of other kinds (`mem_of_mem_splitOnP`).
-/

set_option autoImplicit false

namespace SchemaTypes.Proofs

variable {α : Type} {p : α → Bool}

/-- A run, as `List.takeWhile` gives it, does not go past a character of
another kind. What a scanner reads up to such a character does not hang on
what comes after it. -/
theorem takeWhile_append_cons {c : α} (hc : p c = false) (s t : List α) :
    (s ++ c :: t).takeWhile p = s.takeWhile p := by
  induction s with
  | nil => simp [hc]
  | cons d s ih => simp [List.takeWhile_cons, ih]

/-- A run that ends inside a text ends there however the text goes on;
`takeWhile_append_cons` with the end found somewhere in the text. -/
theorem takeWhile_append_of_mem {c : α} {s : List α} (hmem : c ∈ s) (hc : p c = false)
    (t : List α) : (s ++ t).takeWhile p = s.takeWhile p := by
  obtain ⟨before, after, rfl⟩ := List.append_of_mem hmem
  simp only [List.append_assoc, List.cons_append]
  rw [takeWhile_append_cons hc, takeWhile_append_cons hc]

/-- What is left behind a run, counted off or dropped while it lasts, is the
same. The lexer counts, and `List.dropWhile` is what lemmas are stated
with. -/
theorem drop_length_takeWhile (s : List α) :
    s.drop (s.takeWhile p).length = s.dropWhile p := by
  induction s with
  | nil => rfl
  | cons c s ih => cases hc : p c <;> simp [hc, ih]

/-- What is not part of a run stands behind it: it is in the list, and
`List.takeWhile` has not taken it. -/
theorem mem_drop_length_takeWhile {c : α} {s : List α} (hmem : c ∈ s) (hc : p c = false) :
    c ∈ s.drop (s.takeWhile p).length := by
  rw [drop_length_takeWhile]
  rw [← List.takeWhile_append_dropWhile (p := p) (l := s)] at hmem
  rcases List.mem_append.mp hmem with hrun | hbehind
  · have hall := List.all_takeWhile (p := p) (l := s)
    have := List.all_eq_true.mp hall c hrun
    simp [hc] at this
  · exact hbehind

/-- What stands in front of a mark: a text without the mark is passed over.
The other case is that of `takeWhile_append_cons`. -/
theorem takeWhile_bne_append {mark : Char} {s : List Char} (h : mark ∉ s) (t : List Char) :
    (s ++ t).takeWhile (· != mark) = s ++ t.takeWhile (· != mark) := by
  apply List.takeWhile_append_of_pos
  intro c hc
  rw [bne_iff_ne]
  rintro rfl
  exact h hc

/-- Either there is no mark, or the first one stands behind what is in
front of it. -/
theorem takeWhile_bne_cases (mark : Char) (s : List Char) :
    s.takeWhile (· != mark) = s ∨ ∃ rest, s = s.takeWhile (· != mark) ++ mark :: rest := by
  have hsplit := List.takeWhile_append_dropWhile (p := (· != mark)) (l := s)
  cases hrest : s.dropWhile (· != mark) with
  | nil =>
    rw [hrest, List.append_nil] at hsplit
    exact Or.inl hsplit
  | cons c rest =>
    have hhead := List.head?_dropWhile_not (· != mark) s
    rw [hrest] at hhead hsplit
    have hc : c = mark := by simpa using hhead
    exact Or.inr ⟨rest, hc ▸ hsplit.symm⟩

/-- The pieces that `List.splitOnP` makes hold characters of the text, and
none of those at which it is split. -/
theorem mem_of_mem_splitOnP {s part : List α} (hpart : part ∈ s.splitOnP p) {c : α}
    (hc : c ∈ part) : c ∈ s ∧ p c = false := by
  induction s generalizing part with
  | nil =>
    rw [List.splitOnP_nil, List.mem_singleton] at hpart
    subst hpart
    nomatch hc
  | cons d rest ih =>
    rw [List.splitOnP_cons_eq_if_modifyHead] at hpart
    by_cases hd : p d
    · rw [if_pos hd, List.mem_cons] at hpart
      rcases hpart with rfl | hpart
      · nomatch hc
      · exact ⟨List.mem_cons_of_mem _ (ih hpart hc).1, (ih hpart hc).2⟩
    · -- The first part of the rest is extended by `d`, and the others stay.
      rw [if_neg hd] at hpart
      obtain ⟨first, parts, hparts⟩ := List.exists_cons_of_ne_nil (List.splitOnP_ne_nil p rest)
      rw [hparts] at hpart ih
      rcases List.mem_cons.mp hpart with rfl | hpart
      · rcases List.mem_cons.mp hc with rfl | hc
        · exact ⟨List.mem_cons_self, by simpa using hd⟩
        · have := ih List.mem_cons_self hc
          exact ⟨List.mem_cons_of_mem _ this.1, this.2⟩
      · have := ih (List.mem_cons_of_mem _ hpart) hc
        exact ⟨List.mem_cons_of_mem _ this.1, this.2⟩

end SchemaTypes.Proofs
