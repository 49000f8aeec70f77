import Mathlib.Data.List.Forall2

/-!
# `SchemaTypes.Proofs.Traversal`: going through a list with a step that can fail

The elements of a table and the columns of a key are gone through in
order, and the first failure ends the pass. Both outcomes have a
description without the pass: it succeeds when every step does
(`mapM_eq_ok_iff`), and it fails with the error of the first step that
fails (`mapM_eq_error_iff`). What is shown of a successful pass is shown
element by element, as `List.Forall₂`. From there `map_eq_of_forall₂`
reads off a list, `exists_mem_of_forall₂` a single result, and
`forall₂_of_zip` leaves out what the pass carried along.
-/

set_option autoImplicit false

namespace SchemaTypes.Proofs

variable {ε α β : Type} {f : α → Except ε β}

/-- A changed result is there exactly if the result is, and it is the change
of that. Together with `bind_eq_ok_iff` this opens every step that can fail,
so that the proofs about reading never unfold `Except`. -/
theorem map_eq_ok_iff {γ : Type} {x : Except ε α} {g : α → γ} {c : γ} :
    x.map g = .ok c ↔ ∃ a, x = .ok a ∧ g a = c := by
  cases x with
  | error e => simp [Except.map]
  | ok a => simp [Except.map]

/-- Changing the result leaves a failure as it is. `map_eq_ok_iff` is the
other half. -/
theorem map_eq_error_iff {γ : Type} {x : Except ε α} {g : α → γ} {e : ε} :
    x.map g = .error e ↔ x = .error e := by
  cases x with
  | error e => simp [Except.map]
  | ok a => simp [Except.map]

/-- Two steps in a row, bound in `Except`, succeed exactly if the first does
and the second does with what the first gave. -/
theorem bind_eq_ok_iff {γ : Type} {x : Except ε α} {g : α → Except ε γ} {c : γ} :
    (x >>= g) = .ok c ↔ ∃ a, x = .ok a ∧ g a = .ok c := by
  cases x with
  | error e => simp [bind, Except.bind]
  | ok a => simp [bind, Except.bind]

/-- A pass by `List.mapM` succeeds with the results of the single steps, in
their order. Whether it succeeds and what it gives is thereby a relation
between two lists, on which induction works without the pass. -/
theorem mapM_eq_ok_iff {l : List α} {results : List β} :
    l.mapM f = .ok results ↔ List.Forall₂ (fun a b => f a = .ok b) l results := by
  induction l generalizing results with
  | nil =>
    rw [List.mapM_nil, List.forall₂_nil_left_iff]
    exact ⟨fun h => (Except.ok.inj h).symm, fun h => congrArg Except.ok h.symm⟩
  | cons a l ih =>
    rw [List.mapM_cons, List.forall₂_cons_left_iff]
    -- The head decides first: if it fails the pass does, and no list of results is related to
    -- the items.
    cases ha : f a with
    | error e => simp [bind, Except.bind]
    | ok b =>
      cases hl : l.mapM f with
      | error e =>
        have hnone : ∀ rest, ¬List.Forall₂ (fun a b => f a = .ok b) l rest := by
          intro rest hrest
          rw [ih.mpr hrest] at hl
          cases hl
        simp [bind, Except.bind, hnone]
      | ok rest =>
        have hrest : ∀ rest', List.Forall₂ (fun a b => f a = .ok b) l rest' ↔ rest = rest' := by
          intro rest'
          rw [← ih, hl, Except.ok.injEq]
        simp [bind, Except.bind, pure, Except.pure, hrest, eq_comm]

/-- Elements that agree one by one in what `f` and `g` take from them give
the same list. Statements about a pass relate its items to its results by
`List.Forall₂` (`mapM_eq_ok_iff`); with this a field of all results is
computed from the items, without a second induction. -/
theorem map_eq_of_forall₂ {α β γ : Type} {f : α → γ} {g : β → γ} {l : List α} {l' : List β}
    (h : List.Forall₂ (fun a b => f a = g b) l l') : l.map f = l'.map g := by
  rw [← List.forall₂_eq_eq_eq, List.forall₂_map_left_iff, List.forall₂_map_right_iff]
  exact h

/-- In a `List.Forall₂` each item has a partner among the results. This
finds the column that a single definition of a table has led to. -/
theorem exists_mem_of_forall₂ {R : α → β → Prop} {l : List α} {l' : List β}
    (h : List.Forall₂ R l l') {a : α} (ha : a ∈ l) : ∃ b ∈ l', R a b := by
  induction h with
  | nil => cases ha
  | @cons first partner l l' hfirst _ ih =>
    rcases List.mem_cons.mp ha with rfl | ha
    · exact ⟨partner, List.mem_cons_self, hfirst⟩
    · obtain ⟨b, hb, hab⟩ := ih ha
      exact ⟨b, List.mem_cons_of_mem _ hb, hab⟩

/-- A pass over a `List.zip` relates the first parts to the results, if the
second parts do not matter. The elements of a table are read together with
their spans, and most statements about them leave the spans out. -/
theorem forall₂_of_zip {γ : Type} {R : α → β → γ → Prop} {l : List α} {seconds : List β}
    {results : List γ} (hlength : l.length = seconds.length)
    (h : List.Forall₂ (fun pair c => R pair.1 pair.2 c) (l.zip seconds) results) :
    List.Forall₂ (fun a c => ∃ b, R a b c) l results := by
  have hl : (l.zip seconds).map Prod.fst = l := List.map_fst_zip (Nat.le_of_eq hlength)
  rw [← hl, List.forall₂_map_left_iff]
  exact h.imp fun pair c hpair => ⟨pair.2, hpair⟩

/-- A pass over changed items gives changed results, if each step does.
`Declaration.tableOf_shift` moves a whole table by moving each of its
elements. -/
theorem mapM_map_eq_map {change : α → α} {change' : β → β}
    (hstep : ∀ a, f (change a) = (f a).map change') (l : List α) :
    (l.map change).mapM f = (l.mapM f).map (List.map change') := by
  induction l with
  | nil => rfl
  | cons a l ih =>
    rw [List.map_cons, List.mapM_cons, List.mapM_cons, ih, hstep]
    cases f a with
    | error e => rfl
    | ok b => cases l.mapM f <;> rfl

/-- A pass fails at its first step or, if that succeeds, later. What the
first step gave does not matter then, so it is left out. This is the step of
`mapM_eq_error_iff`. -/
theorem mapM_cons_eq_error_iff {a : α} {l : List α} {e : ε} :
    (a :: l).mapM f = .error e ↔
      f a = .error e ∨ (∃ v, f a = .ok v) ∧ l.mapM f = .error e := by
  rw [List.mapM_cons]
  cases f a with
  | error e' => simp [bind, Except.bind]
  | ok v => cases l.mapM f <;> simp [bind, Except.bind, pure, Except.pure]

/-- A pass fails with the error of the first step that fails. By induction
on the list, with `mapM_cons_eq_error_iff` for the step. -/
theorem mapM_eq_error_iff {l : List α} {e : ε} :
    l.mapM f = .error e ↔
      ∃ before a after, l = before ++ a :: after ∧ (∀ b ∈ before, ∃ v, f b = .ok v) ∧
        f a = .error e := by
  induction l with
  | nil => simp [List.mapM_nil, pure, Except.pure]
  | cons a l ih =>
    rw [mapM_cons_eq_error_iff, ih]
    constructor
    · rintro (ha | ⟨ha, before, b, after, rfl, hbefore, hb⟩)
      · exact ⟨[], a, l, rfl, by simp, ha⟩
      · exact ⟨a :: before, b, after, rfl, List.forall_mem_cons.mpr ⟨ha, hbefore⟩, hb⟩
    · -- Either the failing step is the first one, or the first one is among those that succeed.
      rintro ⟨before, b, after, hl, hbefore, hb⟩
      cases before with
      | nil =>
        obtain ⟨rfl, -⟩ := List.cons.inj hl
        exact .inl hb
      | cons b' before =>
        obtain ⟨rfl, rfl⟩ := List.cons.inj hl
        obtain ⟨ha, hbefore⟩ := List.forall_mem_cons.mp hbefore
        exact .inr ⟨ha, before, b, after, rfl, hbefore, hb⟩

end SchemaTypes.Proofs
