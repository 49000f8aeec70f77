import SchemaTypes.Model.Basic

/-!
# `SchemaTypes.Proofs.Sorting`: what a stable sort hangs on

Records and the entries of a type map are sorted by a key that several of
them may share, so the comparison is a preorder and a sorted list is not
determined by its elements. It is determined by one thing more: the order
in which the elements that tie stand. `mergeSort_eq_of_ties` says so. Two
lists whose ties stand in the same order sort to the same list, however
the rest of them is ordered.

Where no two elements tie, a permutation is enough, which is
`mergeSort_eq_of_perm`. Elements that are added to the input are added to
the result in their places, with the rest as it was (`mergeSort_sublist`).
And elements of one kind stand together in the result, if no other lies
between them (`exists_eq_append_filter_append`).

The second half shows that the comparison of records is such a preorder,
and reads off what it means for two records to tie.
-/

set_option autoImplicit false

namespace SchemaTypes.Proofs

section Ties

variable {α : Type} {le : α → α → Bool}

/-- Neither of two elements has to stand before the other. -/
def tied (le : α → α → Bool) (a b : α) : Bool :=
  le a b && le b a

/-- What `tied` says in propositions: each of the two elements may stand
before the other. -/
theorem tied_iff {a b : α} : tied le a b = true ↔ le a b = true ∧ le b a = true := by
  simp only [tied, Bool.and_eq_true]

variable (trans : ∀ a b c : α, le a b → le b c → le a c)
  (total : ∀ a b : α, le a b || le b a)

include total in
/-- Every element ties with itself. This is where a comparison has to be
total, and it makes an element one of its own ties, so that `mem_of_ties`
finds it among them. -/
theorem tied_self (a : α) : tied le a a = true := by
  have h := total a a
  rw [Bool.or_self] at h
  exact tied_iff.mpr ⟨h, h⟩

include trans total in
/-- Sorting keeps the elements that tie with a given one, in their order.
They are a sorted sublist of the list, so they are one of the result, and
the result has no more of them. -/
theorem filter_tied_mergeSort (l : List α) (a : α) :
    (l.mergeSort le).filter (tied le a) = l.filter (tied le a) := by
  have hpairwise : (l.filter (tied le a)).Pairwise (fun x y => le x y = true) := by
    refine List.pairwise_of_forall_mem_list ?_
    intro x hx y hy
    have hax := (tied_iff.mp (List.mem_filter.mp hx).2).2
    have hay := (tied_iff.mp (List.mem_filter.mp hy).2).1
    exact trans x a y hax hay
  -- Stability: a sublist that is sorted already stays a sublist.
  have hsub : (l.filter (tied le a)).Sublist (l.mergeSort le) :=
    List.sublist_mergeSort trans total hpairwise List.filter_sublist
  have hsub' := hsub.filter (tied le a)
  rw [List.filter_filter] at hsub'
  simp only [Bool.and_self] at hsub'
  have hlen : (l.filter (tied le a)).length = ((l.mergeSort le).filter (tied le a)).length :=
    ((List.mergeSort_perm l le).filter (tied le a)).length_eq.symm
  exact (hsub'.eq_of_length hlen).symm

include total in
/-- Lists with the same ties have the same elements: an element stands among
its own ties (`tied_self`), and these are in the other list too. -/
theorem mem_of_ties {l₁ l₂ : List α} (h : ∀ a, l₁.filter (tied le a) = l₂.filter (tied le a))
    {a : α} (ha : a ∈ l₁) : a ∈ l₂ := by
  have hmem : a ∈ l₁.filter (tied le a) := List.mem_filter.mpr ⟨ha, tied_self total a⟩
  rw [h a] at hmem
  exact (List.mem_filter.mp hmem).1

include total in
/-- The head of a sorted list may stand before every element of the list,
itself included. `eq_of_pairwise_of_ties` asks this of both heads. -/
theorem le_of_mem_of_pairwise {a b : α} {l : List α}
    (hl : (b :: l).Pairwise (fun x y => le x y = true)) (ha : a ∈ b :: l) : le b a = true := by
  rcases List.mem_cons.mp ha with rfl | hmem
  · exact (tied_iff.mp (tied_self total a)).1
  · exact (List.pairwise_cons.mp hl).1 a hmem

include total in
/-- Sorted lists with the same ties are equal. The heads tie, because each
of them occurs in the other list, and then the ties of the tails agree. -/
theorem eq_of_pairwise_of_ties :
    ∀ {l₁ l₂ : List α}, l₁.Pairwise (fun x y => le x y = true) →
      l₂.Pairwise (fun x y => le x y = true) →
      (∀ a, l₁.filter (tied le a) = l₂.filter (tied le a)) → l₁ = l₂
  | [], [], _, _, _ => rfl
  | [], b :: l₂, _, _, h =>
    nomatch mem_of_ties total (fun a => (h a).symm) (List.mem_cons_self (a := b))
  | a :: l₁, [], _, _, h => nomatch mem_of_ties total h (List.mem_cons_self (a := a))
  | a :: l₁, b :: l₂, h₁, h₂, h => by
    have hba : le b a = true :=
      le_of_mem_of_pairwise total h₂ (mem_of_ties total h List.mem_cons_self)
    have hab : le a b = true :=
      le_of_mem_of_pairwise total h₁ (mem_of_ties total (fun c => (h c).symm) List.mem_cons_self)
    -- Both heads are the first tie of `a` in their lists, so they are equal and not only tied.
    have heads := h a
    rw [List.filter_cons_of_pos (tied_self total a),
      List.filter_cons_of_pos (tied_iff.mpr ⟨hab, hba⟩)] at heads
    obtain rfl : a = b := (List.cons.inj heads).1
    have tails : ∀ c, l₁.filter (tied le c) = l₂.filter (tied le c) := by
      intro c
      have hc := h c
      simp only [List.filter_cons] at hc
      split at hc
      · exact (List.cons.inj hc).2
      · exact hc
    rw [eq_of_pairwise_of_ties (List.pairwise_cons.mp h₁).2 (List.pairwise_cons.mp h₂).2 tails]

include trans total in
/-- A stable sort is determined by the order in which ties stand: both
results are sorted, and by `filter_tied_mergeSort` they have the ties of
their inputs, so `eq_of_pairwise_of_ties` applies. -/
theorem mergeSort_eq_of_ties {l₁ l₂ : List α}
    (h : ∀ a, l₁.filter (tied le a) = l₂.filter (tied le a)) :
    l₁.mergeSort le = l₂.mergeSort le := by
  apply eq_of_pairwise_of_ties total (List.pairwise_mergeSort trans total l₁)
    (List.pairwise_mergeSort trans total l₂)
  intro a
  rw [filter_tied_mergeSort trans total, filter_tied_mergeSort trans total, h a]

include trans total in
/-- Where only equal elements tie, sorting forgets the order of its input.
This is the case of JSON fields and of named records, whose names are
unique; where names may repeat, `mergeSort_eq_of_ties` is needed. -/
theorem mergeSort_eq_of_perm {l₁ l₂ : List α} (hperm : l₁.Perm l₂)
    (hties : ∀ a ∈ l₁, ∀ b ∈ l₁, le a b → le b a → a = b) :
    l₁.mergeSort le = l₂.mergeSort le := by
  have hsorted : (l₁.mergeSort le).Perm (l₂.mergeSort le) :=
    (List.mergeSort_perm l₁ le).trans (hperm.trans (List.mergeSort_perm l₂ le).symm)
  refine List.Perm.eq_of_pairwise ?_ (List.pairwise_mergeSort trans total l₁)
    (List.pairwise_mergeSort trans total l₂) hsorted
  -- Both elements stand in the results, and `hties` speaks of the first input only.
  intro a b ha hb hab hba
  have hb' : b ∈ l₁ := hperm.mem_iff.mpr (List.mem_mergeSort.mp hb)
  exact hties a (List.mem_mergeSort.mp ha) b hb' hab hba

/-! ### More elements -/

include trans total in
/-- Sorting puts the first element behind those that have to stand before
it, and in front of all others, its ties included. The library's
`List.mergeSort_cons` says that there are such parts; here they are named by
what is in them, which `mergeSort_sublist` needs to compare the parts of two
lists. -/
theorem mergeSort_cons_eq (a : α) (l : List α) :
    (a :: l).mergeSort le =
      (l.mergeSort le).filter (fun b => !le a b) ++ a :: (l.mergeSort le).filter (le a) := by
  obtain ⟨front, back, hcons, hrest, hfront⟩ := List.mergeSort_cons trans total a l
  have hback : ∀ b ∈ back, le a b = true := by
    have hsorted := List.pairwise_mergeSort trans total (a :: l)
    rw [hcons, List.pairwise_append, List.pairwise_cons] at hsorted
    exact hsorted.2.1.1
  -- Each part is found again in the sorted rest, as the elements on its side of `a`.
  have hfront_filter : (front ++ back).filter (fun b => !le a b) = front := by
    rw [List.filter_append, List.filter_eq_self.mpr hfront,
      List.filter_eq_nil_iff.mpr (fun b hb => by simp [hback b hb]), List.append_nil]
  have hback_filter : (front ++ back).filter (le a) = back := by
    rw [List.filter_append, List.filter_eq_self.mpr hback,
      List.filter_eq_nil_iff.mpr (fun b hb => by simpa using hfront b hb), List.nil_append]
  rw [hcons, hrest, hfront_filter, hback_filter]

include trans total in
/-- Sorting keeps sublists: elements that are left out of the input are left
out of the result, and nothing else changes. By `mergeSort_cons_eq` an
element parts both results in the same way. -/
theorem mergeSort_sublist {l₁ l₂ : List α} (h : l₁.Sublist l₂) :
    (l₁.mergeSort le).Sublist (l₂.mergeSort le) := by
  induction h with
  | slnil => exact List.Sublist.refl _
  | @cons l₁ l₂ a _ ih =>
    obtain ⟨front, back, hcons, hrest, -⟩ := List.mergeSort_cons trans total a l₂
    rw [hrest] at ih
    rw [hcons]
    exact ih.trans ((List.sublist_cons_self a back).append_left front)
  | @cons_cons l₁ l₂ a _ ih =>
    -- The element parts both results in the same way, so each part is a sublist by itself.
    rw [mergeSort_cons_eq trans total, mergeSort_cons_eq trans total]
    exact (ih.filter _).append ((ih.filter _).cons_cons a)

include trans in
/-- Of two lists whose elements do not tie, an element ties with those of
one at most, so its ties stand in the same order whichever list comes first.
`mergeSort_eq_of_ties` then sorts both alike. -/
theorem filter_tied_append_comm {l₁ l₂ : List α}
    (h : ∀ x ∈ l₁, ∀ y ∈ l₂, tied le x y = false) (a : α) :
    (l₁ ++ l₂).filter (tied le a) = (l₂ ++ l₁).filter (tied le a) := by
  rw [List.filter_append, List.filter_append]
  by_cases hnone : l₁.filter (tied le a) = []
  · rw [hnone, List.nil_append, List.append_nil]
  · obtain ⟨x, hx⟩ := List.exists_mem_of_ne_nil _ hnone
    obtain ⟨hmem, htied⟩ := List.mem_filter.mp hx
    have hax := tied_iff.mp htied
    -- A tie on each side would make the two tie with each other, through `a`.
    have hnone' : l₂.filter (tied le a) = [] := by
      rw [List.filter_eq_nil_iff]
      intro y hy hay
      have hay := tied_iff.mp hay
      have hxy : tied le x y = true :=
        tied_iff.mpr ⟨trans x a y hax.2 hay.1, trans y a x hay.2 hax.1⟩
      rw [h x hmem y hy] at hxy
      exact Bool.false_ne_true hxy
    rw [hnone', List.nil_append, List.append_nil]

include trans total in
/-- Two neighbouring parts whose elements do not tie may change places
before sorting. `Build.sort_gathered_gathered_records` moves the records of
a first run past those of a second one this way. -/
theorem mergeSort_swap {front l₁ l₂ back : List α}
    (h : ∀ x ∈ l₁, ∀ y ∈ l₂, tied le x y = false) :
    (front ++ (l₁ ++ l₂) ++ back).mergeSort le = (front ++ (l₂ ++ l₁) ++ back).mergeSort le := by
  refine mergeSort_eq_of_ties trans total ?_
  intro a
  rw [List.filter_append, List.filter_append front, filter_tied_append_comm trans h,
    ← List.filter_append, ← List.filter_append]

include trans total in
/-- What is left out before sorting may as well be left out afterwards. Both
sides are sorted, and they have the same ties, because choosing the ties of
`a` and choosing by `p` can be done in either order. -/
theorem filter_mergeSort (p : α → Bool) (l : List α) :
    (l.mergeSort le).filter p = (l.filter p).mergeSort le := by
  refine eq_of_pairwise_of_ties total ((List.pairwise_mergeSort trans total l).filter p)
    (List.pairwise_mergeSort trans total (l.filter p)) ?_
  intro a
  have hcomm : ∀ l' : List α,
      (l'.filter p).filter (tied le a) = (l'.filter (tied le a)).filter p := by
    intro l'
    rw [List.filter_filter, List.filter_filter]
    exact List.filter_congr fun b _ => Bool.and_comm (tied le a b) (p b)
  rw [hcomm, filter_tied_mergeSort trans total, filter_tied_mergeSort trans total, hcomm]

/-- In a sorted list the elements of a kind stand together, if whatever lies
between two of them is of the kind too. By induction on the list; the part
in front of the kind is carried along as one that has none of it. -/
theorem exists_eq_append_filter_append {p : α → Bool}
    (hbetween : ∀ a b c, le a b → le b c → p a → p c → p b) {l : List α}
    (hl : l.Pairwise (fun x y => le x y = true)) :
    ∃ before after, l = before ++ l.filter p ++ after ∧ ∀ b ∈ before, ¬ p b := by
  induction l with
  | nil => exact ⟨[], [], rfl, nofun⟩
  | cons a l ih =>
    obtain ⟨hfirst, hrest⟩ := List.pairwise_cons.mp hl
    obtain ⟨before, after, heq, hbefore⟩ := ih hrest
    by_cases ha : p a
    · rw [List.filter_cons_of_pos ha]
      cases hkind : l.filter p with
      | nil => exact ⟨[], l, rfl, nofun⟩
      | cons c others =>
        -- What stands in front of `c` would lie between `a` and `c`.
        rw [hkind] at heq
        have hc : p c := (List.mem_filter.mp (hkind ▸ List.mem_cons_self)).2
        have hnone : before = [] := by
          rw [List.eq_nil_iff_forall_not_mem]
          intro b hb
          rw [heq, List.append_assoc, List.pairwise_append] at hrest
          have hbc : le b c := hrest.2.2 b hb c List.mem_cons_self
          have hab : le a b := hfirst b (heq ▸ by simp [hb])
          exact hbefore b hb (hbetween a b c hab hbc ha hc)
        subst hnone
        exact ⟨[], after, congrArg (a :: ·) heq, nofun⟩
    · rw [List.filter_cons_of_neg ha]
      refine ⟨a :: before, after, congrArg (a :: ·) heq, ?_⟩
      exact List.forall_mem_cons.mpr ⟨ha, hbefore⟩

end Ties

/-! ### Keys one after the other -/

section Keys

variable {β : Type} {lt : β → β → Prop} {x y z : β} {P Q R : Prop}

/-- A comparison by a first key, and by what follows where it is equal. -/
def lexicographic (lt : β → β → Prop) (x y : β) (next : Prop) : Prop :=
  lt x y ∨ x = y ∧ next

/-- Comparing by keys one after the other, as `lexicographic` does, is
transitive, if comparing by the first key is and what follows composes. The
last is a hypothesis about propositions, so that a chain of keys is gone
through by applying this lemma once for each. -/
theorem lexicographic_trans (trans : ∀ {x y z : β}, lt x y → lt y z → lt x z)
    (next : P → Q → R) (hxy : lexicographic lt x y P) (hyz : lexicographic lt y z Q) :
    lexicographic lt x z R := by
  rcases hxy with hxy | ⟨rfl, hp⟩
  · rcases hyz with hyz | ⟨rfl, -⟩
    · exact Or.inl (trans hxy hyz)
    · exact Or.inl hxy
  · rcases hyz with hyz | ⟨rfl, hq⟩
    · exact Or.inl hyz
    · exact Or.inr ⟨rfl, next hp hq⟩

/-- Comparing by keys is total, if the first key is connected and what
follows is total. As in `lexicographic_trans`, the step for the remaining
keys is a hypothesis. -/
theorem lexicographic_total (connected : ∀ x y : β, lt x y ∨ x = y ∨ lt y x)
    (next : P ∨ Q) : lexicographic lt x y P ∨ lexicographic lt y x Q := by
  rcases connected x y with hlt | rfl | hgt
  · exact Or.inl (Or.inl hlt)
  · rcases next with hp | hq
    · exact Or.inl (Or.inr ⟨rfl, hp⟩)
    · exact Or.inr (Or.inr ⟨rfl, hq⟩)
  · exact Or.inr (Or.inl hgt)

/-- If each of two elements comes before the other, the first key is the
same, and what follows holds both ways. `TypeRecord.tied_iff_keys` peels off
one key after the other with this. -/
theorem lexicographic_antisymm (asymm : ∀ {x y : β}, lt x y → ¬ lt y x)
    (hxy : lexicographic lt x y P) (hyx : lexicographic lt y x Q) : x = y ∧ P ∧ Q := by
  rcases hxy with hxy | ⟨rfl, hp⟩
  · rcases hyx with hyx | ⟨rfl, -⟩
    · exact absurd hyx (asymm hxy)
    · exact absurd hxy (asymm hxy)
  · rcases hyx with hyx | ⟨-, hq⟩
    · exact absurd hyx (asymm hyx)
    · exact ⟨rfl, hp, hq⟩

/-- Of two different texts one comes first, in the order by code points. -/
theorem text_connected (x y : String) : x < y ∨ x = y ∨ y < x := by
  by_cases hxy : x < y
  · exact Or.inl hxy
  · by_cases hyx : y < x
    · exact Or.inr (Or.inr hyx)
    · exact Or.inr (Or.inl (String.le_antisymm (String.not_lt.mp hyx) (String.not_lt.mp hxy)))

/-- A comparison by a text is transitive. With `byText_total` this is what
the lemmas about `List.mergeSort` ask of the comparisons by name: of type
definitions, of JSON records and of the entries of a type map. -/
theorem byText_trans (text : β → String) (a b c : β) (hab : decide (text a ≤ text b) = true)
    (hbc : decide (text b ≤ text c) = true) : decide (text a ≤ text c) = true := by
  simp only [decide_eq_true_eq] at hab hbc ⊢
  exact String.le_trans hab hbc

/-- A comparison by a text is total. With `byText_trans` this is what
sorting by name needs. -/
theorem byText_total (text : β → String) (a b : β) :
    (decide (text a ≤ text b) || decide (text b ≤ text a)) = true := by
  simp only [Bool.or_eq_true, decide_eq_true_eq]
  exact String.le_total (text a) (text b)

end Keys

end SchemaTypes.Proofs

namespace SchemaTypes.TypeRecord

open Proofs

/-! ### The order of records -/

/-- Records are compared by `TypeRecord.le` with four keys one after the
other: the group, the base name in lower case, the base name, and the place
among the variants. In this form each law of the comparison follows from
that of a single key. -/
theorem le_iff (a b : TypeRecord) :
    le a b = true ↔
      lexicographic (· < ·) a.rank b.rank
        (lexicographic (· < ·) (Text.lower a.baseName) (Text.lower b.baseName)
          (lexicographic (· < ·) a.baseName b.baseName (a.shapeOrder ≤ b.shapeOrder))) := by
  unfold le lexicographic
  -- The comparison is a chain of tests; at each one the keys before it are known to be equal.
  split
  next hrank => simp [hrank]
  next hrank =>
    have hrank : a.rank = b.rank := Decidable.of_not_not hrank
    split
    next hlower => simp [hrank, hlower]
    next hlower =>
      have hlower : Text.lower a.baseName = Text.lower b.baseName := Decidable.of_not_not hlower
      split
      next hbase => simp [hrank, hlower, hbase]
      next hbase =>
        have hbase : a.baseName = b.baseName := Decidable.of_not_not hbase
        simp [hrank, hbase]

/-- The comparison of records is transitive, key by key:
`lexicographic_trans` is applied once for each of the first three. -/
theorem le_trans (a b c : TypeRecord) (hab : le a b) (hbc : le b c) : le a c := by
  rw [le_iff] at hab hbc ⊢
  refine lexicographic_trans Nat.lt_trans ?_ hab hbc
  refine lexicographic_trans String.lt_trans ?_
  refine lexicographic_trans String.lt_trans ?_
  exact Nat.le_trans

/-- The comparison of records is total, key by key. With `le_trans` this
lets every lemma about stable sorting above be used on records. -/
theorem le_total (a b : TypeRecord) : le a b || le b a := by
  rw [Bool.or_eq_true, le_iff, le_iff]
  refine lexicographic_total Nat.lt_trichotomy ?_
  refine lexicographic_total text_connected ?_
  refine lexicographic_total text_connected ?_
  exact Nat.le_total a.shapeOrder b.shapeOrder

/-- Records tie exactly if they are of one group, one base name and one
place among the variants. The lower-case form adds nothing: it hangs on the
base name, and drops out of `le_iff` when both directions are taken
together. -/
theorem tied_iff_keys (a b : TypeRecord) :
    tied le a b = true ↔
      a.rank = b.rank ∧ a.baseName = b.baseName ∧ a.shapeOrder = b.shapeOrder := by
  rw [tied_iff, le_iff, le_iff]
  constructor
  · rintro ⟨hab, hba⟩
    -- One key after the other is found to be equal, and what follows it holds both ways.
    obtain ⟨hrank, hab, hba⟩ := lexicographic_antisymm Nat.lt_asymm hab hba
    obtain ⟨-, hab, hba⟩ := lexicographic_antisymm String.lt_asymm hab hba
    obtain ⟨hbase, hab, hba⟩ := lexicographic_antisymm String.lt_asymm hab hba
    exact ⟨hrank, hbase, Nat.le_antisymm hab hba⟩
  · rintro ⟨hrank, hbase, hshape⟩
    rw [hrank, hbase, hshape]
    simp [lexicographic]

/-! ### Sorted records -/

/-- Sorted records stand in the order of `le`. The artifacts that list
types, and the blocks of a schema file, take their order from this. -/
theorem pairwise_sort (records : List TypeRecord) :
    (sort records).Pairwise (fun a b => le a b = true) :=
  List.pairwise_mergeSort le_trans le_total records

/-- Sorting by `TypeRecord.sort` changes nothing the second time. The
targets sort what they are given, and the records of a model are sorted
already. -/
theorem sort_sort (records : List TypeRecord) : sort (sort records) = sort records :=
  List.mergeSort_of_pairwise (pairwise_sort records)

/-- No enum stands after a record that is none: the group is the first key
of `le_iff`, and enums have the lower one. -/
theorem shape_ne_enum_of_le {a b : TypeRecord} (ha : a.shape ≠ .enum) (hab : le a b) :
    b.shape ≠ .enum := by
  intro hb
  have harank : a.rank = 2 := if_neg ha
  have hbrank : b.rank = 1 := if_pos hb
  rcases (le_iff a b).mp hab with hlt | ⟨heq, -⟩
  · omega
  · omega

/-- Sorted records are the enums followed by the others. By induction on the
list: as soon as one record is no enum, none of those behind it is
(`shape_ne_enum_of_le`). -/
theorem filter_enum_append_of_pairwise {records : List TypeRecord}
    (h : records.Pairwise (fun a b => le a b = true)) :
    records.filter (fun r => r.shape = .enum) ++ records.filter (fun r => r.shape ≠ .enum) =
      records := by
  induction records with
  | nil => rfl
  | cons r records ih =>
    rw [List.pairwise_cons] at h
    by_cases hr : r.shape = .enum
    · rw [List.filter_cons_of_pos (by simpa using hr), List.filter_cons_of_neg (by simpa using hr),
        List.cons_append, ih h.2]
    · -- From here on no record is an enum, so the first part is empty.
      have hrest : ∀ x ∈ records, x.shape ≠ .enum := fun x hx =>
        shape_ne_enum_of_le hr (h.1 x hx)
      have hnone : records.filter (fun x => x.shape = .enum) = [] := by
        simpa using hrest
      have hall : records.filter (fun x => x.shape ≠ .enum) = records := by
        simpa using hrest
      rw [List.filter_cons_of_neg (by simpa using hr), List.filter_cons_of_pos (by simpa using hr),
        hnone, hall]
      rfl

end SchemaTypes.TypeRecord
