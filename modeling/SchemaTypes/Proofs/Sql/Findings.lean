import SchemaTypes.Sql.Grammar.Parse

/-!
# `SchemaTypes.Proofs.Sql.Findings`: what a reading can find

A reading goes through a statement with many tests on the way, but what
it finds at the end is often of one form whatever the tests said.
`Gives P p` states that everything the reading `p` can come to has the
property `P`, from any place, and `Finds P p` the same of a reading that
may find nothing. A reading that does not come to an end gives nothing,
so the statements hold of it.

The lemmas follow the ways in which readings are put together. Most of
them forget what the parts before the last one found (`gives_then`); for
the others there is `gives_bind`.
-/

set_option autoImplicit false

namespace SchemaTypes.Sql.Grammar.Parse

variable {α β : Type} {P : β → Prop} {Q : α → Prop}

/-- All that a reading gives has a property. -/
def Gives (P : β → Prop) (p : Parse β) : Prop :=
  ∀ place found after, p place = .ok (found, after) → P found

/-- All that a reading finds has a property. -/
def Finds (P : β → Prop) (p : Parse (Option β)) : Prop :=
  Gives (fun found => ∀ b, found = some b → P b) p

/-- A reading that `Gives` a property gives every weaker one as well. -/
theorem Gives.imp {P' : β → Prop} {p : Parse β} (h : Gives P p) (himp : ∀ b, P b → P' b) :
    Gives P' p :=
  fun place found after hp => himp found (h place found after hp)

/-- A weaker property is found as well. A rule that needs less than another
rule finds is served by it in this way, as `finds_isPlain_field` is by
calls. -/
theorem Finds.imp {P' : β → Prop} {p : Parse (Option β)} (h : Finds P p)
    (himp : ∀ b, P b → P' b) : Finds P' p :=
  Gives.imp h fun _ hfound b hb => himp b (hfound b hb)

/-- A property that everything has is given by every reading, also by one of
which nothing is known. Grammar rules whose trees are dropped need no lemma
but this. -/
theorem gives_of_forall {p : Parse β} (h : ∀ b, P b) : Gives P p :=
  fun _ found _ _ => h found

/-- What follows a reading may use what is known of its outcome, so `Gives`
is shown rule by rule. -/
theorem gives_bind {x : Parse α} {f : α → Parse β} (hx : Gives Q x)
    (hf : ∀ a, Q a → Gives P (f a)) : Gives P (x >>= f) := by
  intro place found after h
  -- A reading that fails in its first part comes to nothing as a whole.
  have h : Except.bind (x place) (fun r => f r.1 r.2) = .ok (found, after) := h
  cases hplace : x place with
  | error e =>
    rw [hplace] at h
    cases h
  | ok r =>
    rw [hplace] at h
    exact hf r.1 (hx place r.1 r.2 hplace) r.2 found after h

/-- A reading gives what its last part gives, whatever the first part does.
Most steps of the grammar only go forward, and this lemma passes over them;
`gives_bind` is for those that bring something along. -/
theorem gives_then {x : Parse α} {f : α → Parse β} (hf : ∀ a, Gives P (f a)) :
    Gives P (x >>= f) :=
  gives_bind (Q := fun _ => True) (gives_of_forall fun _ => trivial) fun a _ => hf a

/-- A reading that takes nothing gives its value, and `Gives` says what is
known of that. -/
theorem gives_pure {b : β} (h : P b) : Gives P (pure b) := by
  intro place found after hpure
  obtain ⟨rfl, -⟩ := Prod.mk.inj (Except.ok.inj hpure)
  exact h

/-- Both branches of a choice have to give the property. What the choice was
made on is dropped, since the trees of the grammar do not depend on it. -/
theorem gives_ite {c : Prop} [Decidable c] {x y : Parse β} (hx : Gives P x) (hy : Gives P y) :
    Gives P (if c then x else y) := by
  split
  · exact hx
  · exact hy

/-- The reading `refuse`, which always fails, gives nothing that could lack
the property. -/
theorem gives_refuse : Gives P refuse :=
  fun _ _ _ h => nomatch h

/-- A reading that finds nothing finds nothing without the property, so
`Finds` holds of it. -/
theorem finds_none : Finds P (pure none) :=
  gives_pure nofun

/-- A reading that finds one fixed thing finds what that thing is, so
`Finds` is a fact about the thing. -/
theorem finds_some {b : β} (h : P b) : Finds P (pure (some b)) :=
  gives_pure fun _ hb => Option.some.inj hb ▸ h

/-- What is found is handed on to a second reading, and another one takes
over if nothing is found. Both have to give what has the property, as in
`gives_bind`. -/
theorem finds_bind {x : Parse (Option α)} {f : Option α → Parse β} (hx : Finds Q x)
    (hsome : ∀ a, Q a → Gives P (f (some a))) (hnone : Gives P (f none)) : Gives P (x >>= f) := by
  refine gives_bind hx fun found hfound => ?_
  cases found with
  | none => exact hnone
  | some a => exact hsome a (hfound a rfl)

/-- The second alternative of `orElse` is read if the first finds nothing,
so both have to find the property. -/
theorem finds_orElse {first second : Parse (Option β)} (hfirst : Finds P first)
    (hsecond : Finds P second) : Finds P (orElse first second) :=
  finds_bind hfirst (fun _ hb => finds_some hb) hsecond

/-- A reading of other items, by `aside`, finds what it would find on its
own. -/
theorem gives_aside {items : List Item} {p : Parse β} (h : Gives P p) : Gives P (aside items p) :=
  gives_then fun _ => gives_then fun _ => gives_bind h fun _ hb => gives_then fun _ => gives_pure hb

/-! ## Loops -/

/-- A property that one step keeps is kept by all that `repeatFor` takes. By
induction on the fuel: the loop ends when a step finds nothing, and the last
value stands. -/
theorem gives_repeatFor {step : β → Parse (Option β)} (hstep : ∀ b, P b → Finds P (step b))
    (fuel : Nat) {b : β} (hb : P b) : Gives P (repeatFor step fuel b) := by
  induction fuel generalizing b with
  | zero => exact gives_pure hb
  | succ fuel ih => exact finds_bind (hstep b hb) (fun _ hnext => ih hnext) (gives_pure hb)

/-- A property that one step keeps holds after `repeating`, of which the
number of steps is set by the items that are left. -/
theorem gives_repeating {step : β → Parse (Option β)} (hstep : ∀ b, P b → Finds P (step b))
    {b : β} (hb : P b) : Gives P (repeating step b) :=
  gives_then fun _ => gives_repeatFor hstep _ hb

/-- All items that `separatedFor` gathers have the property that its reading
finds. An item that is not found is left out of the list, so there is
nothing to show for it. -/
theorem gives_separatedFor {p : Parse (Option β)} (h : Finds P p) (fuel : Nat) :
    Gives (fun found => ∀ b ∈ found, P b) (separatedFor p fuel) := by
  induction fuel with
  | zero => exact gives_pure nofun
  | succ fuel ih =>
    refine gives_bind h fun first hfirst => gives_then fun _ => gives_ite ?_ ?_
    · refine gives_bind ih fun rest hrest => gives_pure fun b hb => ?_
      rcases List.mem_append.mp hb with hb | hb
      · exact hfirst b (Option.mem_toList.mp hb)
      · exact hrest b hb
    · exact gives_pure fun b hb => hfirst b (Option.mem_toList.mp hb)

/-- The statement of `gives_separatedFor` without its fuel. -/
theorem gives_separated {p : Parse (Option β)} (h : Finds P p) :
    Gives (fun found => ∀ b ∈ found, P b) (separated p) :=
  gives_then fun _ => gives_separatedFor h _

/-- Parentheses around a reading, by `wrapped`, do not change what it
gives. -/
theorem gives_wrapped {p : Parse β} (h : Gives P p) : Gives P (wrapped p) := by
  refine gives_then fun opened => ?_
  have hrest : Gives P (do
      let found ← p
      if opened then close
      return found) := by
    refine gives_bind h fun found hfound => gives_ite ?_ (gives_pure hfound)
    exact gives_then fun _ => gives_pure hfound
  exact gives_ite hrest (gives_then fun _ => hrest)

/-- A list in parentheses is a list with separators inside `wrapped`, so
both lemmas together say what its items are. The keys of a table are such
lists. -/
theorem gives_list {p : Parse (Option β)} (h : Finds P p) :
    Gives (fun found => ∀ b ∈ found, P b) (list p) :=
  gives_wrapped (gives_separated h)

end SchemaTypes.Sql.Grammar.Parse
