import Mathlib.Data.List.Basic
import SchemaTypes.Declaration.Basic
import SchemaTypes.Model.Naming
import SchemaTypes.Proofs.Fields
import SchemaTypes.Proofs.Sorting
import SchemaTypes.TypeMap.Basic

/-!
# `SchemaTypes.Proofs.TypeMap.Registration`: what registered enums leave behind

The enums of a schema are registered one after the other. Under each
canonical name only the last enum of that name counts: its mapping stands
in the place of whatever the table held there, and names that no enum has
are untouched. `fieldsAt_registerAll` states this for the fields of one
name, and the look-ups follow from it:

* `resolve_registerAll_of_some`: a type that is named like an enum has the
  mapping of the last such enum, whatever the table held.
* `resolve_registerAll_of_none`: any other type has the mapping it had,
  unless an enum takes the name that stands for unknown types.

`resolve_eq_of_fieldsAt` and `filter_snapshot_eq` say that the fields of
each name decide everything a table is asked for, the sorted listing
included. So two histories that agree name by name cannot be told apart,
and histories that agree under some names are alike as far as these go.
-/

set_option autoImplicit false

namespace SchemaTypes.TypeMap

open Json (fieldsAt)

/-- The table with a declared enum registered under its generated name. -/
def register (m : TypeMap) (e : EnumType) : TypeMap :=
  m.registerEnum e.name (Naming.typeName e.name)

/-- The table with enums registered one after the other. -/
def registerAll (m : TypeMap) (enums : List EnumType) : TypeMap :=
  enums.foldl register m

/-- Enums are registered by `registerAll` one after the other, so a list may
be registered in two parts. -/
theorem registerAll_append (m : TypeMap) (first second : List EnumType) :
    m.registerAll (first ++ second) = (m.registerAll first).registerAll second :=
  List.foldl_append

/-- The last of several enums with a canonical name. -/
def lastNamed (key : String) (enums : List EnumType) : Option EnumType :=
  (enums.filter fun e => canonicalName e.name == key).getLast?

/-- An enum in front counts for its name only if no later one has that name.
This is the step of `lastNamed` from the front. -/
theorem lastNamed_cons (key : String) (e : EnumType) (enums : List EnumType) :
    lastNamed key (e :: enums) =
      (lastNamed key enums).or (if canonicalName e.name = key then some e else none) := by
  unfold lastNamed
  by_cases h : canonicalName e.name = key
  · rw [List.filter_cons_of_pos (by simpa using h), if_pos h, List.getLast?_cons]
    cases (enums.filter fun e => canonicalName e.name == key).getLast? <;> rfl
  · rw [List.filter_cons_of_neg (by simpa using h), if_neg h, Option.or_none]

/-- There is no enum for `lastNamed` to give exactly if none has the
name. -/
theorem lastNamed_eq_none_iff {key : String} {enums : List EnumType} :
    lastNamed key enums = none ↔ ∀ e ∈ enums, canonicalName e.name ≠ key := by
  simp [lastNamed]

/-- The enum that `lastNamed` gives is one that no other of the name
follows. What stands in front of it does not matter. -/
theorem lastNamed_append_cons {key : String} {e : EnumType} {before after : List EnumType}
    (he : canonicalName e.name = key) (hafter : ∀ x ∈ after, canonicalName x.name ≠ key) :
    lastNamed key (before ++ e :: after) = some e := by
  have hnone : after.filter (fun x => canonicalName x.name == key) = [] := by
    simpa using hafter
  unfold lastNamed
  rw [List.filter_append, List.filter_cons_of_pos (by simpa using he), hnone]
  exact List.getLast?_concat

/-- Enums of other names have no part in what `lastNamed` gives, wherever
they are inserted. -/
theorem lastNamed_append_append {key : String} {added : List EnumType}
    (h : ∀ e ∈ added, canonicalName e.name ≠ key) (before after : List EnumType) :
    lastNamed key (before ++ (added ++ after)) = lastNamed key (before ++ after) := by
  have hnone : added.filter (fun e => canonicalName e.name == key) = [] := by
    simpa using h
  unfold lastNamed
  rw [List.filter_append, List.filter_append, hnone, List.nil_append, ← List.filter_append]

/-- Among enums of different canonical names, the one that `lastNamed` gives
is the only one, so it does not hang on the order. -/
theorem lastNamed_eq_some_iff {key : String} {enums : List EnumType} {e : EnumType}
    (hkeys : (enums.map fun e => canonicalName e.name).Nodup) :
    lastNamed key enums = some e ↔ e ∈ enums ∧ canonicalName e.name = key := by
  constructor
  · intro h
    have hmem := List.mem_filter.mp (List.mem_of_getLast? h)
    exact ⟨hmem.1, by simpa using hmem.2⟩
  · rintro ⟨hmem, rfl⟩
    obtain ⟨before, after, rfl⟩ := List.append_of_mem hmem
    rw [List.map_append, List.map_cons, List.nodup_append] at hkeys
    refine lastNamed_append_cons rfl ?_
    intro x hx heq
    exact (List.nodup_cons.mp hkeys.2.1).1 (List.mem_map.mpr ⟨x, hx, heq⟩)

/-- Among enums of different canonical names the order does not matter for
the last one of a name, because it is the only one
(`lastNamed_eq_some_iff`). -/
theorem lastNamed_eq_of_perm {enums enums' : List EnumType} (hperm : enums.Perm enums')
    (hkeys : (enums.map fun e => canonicalName e.name).Nodup) (key : String) :
    lastNamed key enums = lastNamed key enums' := by
  have hkeys' : (enums'.map fun e => canonicalName e.name).Nodup :=
    (hperm.map _).nodup_iff.mp hkeys
  apply Option.ext
  intro e
  rw [lastNamed_eq_some_iff hkeys, lastNamed_eq_some_iff hkeys', hperm.mem_iff]

/-- Registering puts a new field in the place of the first one of its name,
as `fieldsAt_setField` says of any field, and leaves the fields of all other
names alone. -/
theorem fieldsAt_register (key : String) (m : TypeMap) (e : EnumType) :
    fieldsAt key (m.register e).entries =
      if key = canonicalName e.name then
        (canonicalName e.name, enumMapping (Naming.typeName e.name)) ::
          (fieldsAt key m.entries).tail
      else fieldsAt key m.entries :=
  Json.fieldsAt_setField _ _ _ _

/-- Of several registered enums the last of each name counts. By induction
on the enums, with `lastNamed_cons` for the one in front. -/
theorem fieldsAt_registerAll (key : String) (m : TypeMap) (enums : List EnumType) :
    fieldsAt key (m.registerAll enums).entries =
      match lastNamed key enums with
      | some e => (key, enumMapping (Naming.typeName e.name)) :: (fieldsAt key m.entries).tail
      | none => fieldsAt key m.entries := by
  induction enums generalizing m with
  | nil => rfl
  | cons e enums ih =>
    rw [registerAll, List.foldl_cons, ← registerAll, ih, lastNamed_cons, fieldsAt_register]
    by_cases h : canonicalName e.name = key
    · -- What `e` put at the head is the first to go when a later enum follows.
      subst h
      cases lastNamed (canonicalName e.name) enums <;> simp
    · rw [if_neg h, if_neg (Ne.symm h), Option.or_none]

/-- Registering further enums, at whatever place among the others, changes
nothing under a name that none of them has. `lastNamed_append_append` says
so of the enums alone. -/
theorem fieldsAt_registerAll_append {key : String} {added : List EnumType}
    (h : ∀ e ∈ added, canonicalName e.name ≠ key) (m : TypeMap) (before after : List EnumType) :
    fieldsAt key (m.registerAll (before ++ (added ++ after))).entries =
      fieldsAt key (m.registerAll (before ++ after)).entries := by
  rw [fieldsAt_registerAll, fieldsAt_registerAll, lastNamed_append_append h]

/-- The mapping under a name after enums were registered: that of the last
enum of the name (`lastNamed`), or the one that was there. -/
theorem get?_registerAll (key : String) (m : TypeMap) (enums : List EnumType) :
    (m.registerAll enums).get? key =
      ((lastNamed key enums).map fun e => enumMapping (Naming.typeName e.name)).or
        (m.get? key) := by
  unfold get?
  rw [Json.lookup_eq_head?_fieldsAt, fieldsAt_registerAll, Json.lookup_eq_head?_fieldsAt]
  cases lastNamed key enums <;> rfl

/-- A type that is named like an enum has the mapping of the last such enum,
whatever the table had under that name (`get?_registerAll`). -/
theorem resolve_registerAll_of_some {name : String} {enums : List EnumType} {e : EnumType}
    (h : lastNamed (canonicalName name) enums = some e) (m : TypeMap) :
    (m.registerAll enums).resolve name = enumMapping (Naming.typeName e.name) := by
  unfold resolve
  rw [get?_registerAll, h]
  rfl

/-- A type that is not named like an enum has the mapping it had. This needs
that no enum is named like the entry for unknown types, the `defaultKey`. -/
theorem resolve_registerAll_of_none {name : String} {enums : List EnumType}
    (hname : ∀ e ∈ enums, canonicalName e.name ≠ canonicalName name)
    (hdefault : ∀ e ∈ enums, canonicalName e.name ≠ defaultKey) (m : TypeMap) :
    (m.registerAll enums).resolve name = m.resolve name := by
  -- Two look-ups: the name itself, and the entry for unknown types if there is none.
  unfold resolve
  rw [get?_registerAll, get?_registerAll, lastNamed_eq_none_iff.mpr hname,
    lastNamed_eq_none_iff.mpr hdefault]
  rfl

/-! ### What a table is asked for -/

section Agreement

variable {m₁ m₂ : TypeMap}

/-- The mapping under a name depends on the fields of that name only, of
which `get?` takes the first. -/
theorem get?_eq_of_fieldsAt {key : String}
    (h : fieldsAt key m₁.entries = fieldsAt key m₂.entries) : m₁.get? key = m₂.get? key := by
  unfold get?
  rw [Json.lookup_eq_head?_fieldsAt, Json.lookup_eq_head?_fieldsAt, h]

/-- A type is answered by `resolve` with what stands under its own name and
under the name for unknown types. Tables that agree on these two resolve it
alike. -/
theorem resolve_eq_of_fieldsAt {name : String}
    (hname : fieldsAt (canonicalName name) m₁.entries = fieldsAt (canonicalName name) m₂.entries)
    (hdefault : fieldsAt defaultKey m₁.entries = fieldsAt defaultKey m₂.entries) :
    m₁.resolve name = m₂.resolve name := by
  unfold resolve
  rw [get?_eq_of_fieldsAt hname, get?_eq_of_fieldsAt hdefault]

/-- Entries tie in a listing, in the sense of `Proofs.tied`, exactly if they
have the same name. -/
theorem tied_eq_name (a : String × TypeMapping) :
    Proofs.tied (fun x y : String × TypeMapping => decide (x.1 ≤ y.1)) a =
      fun field => field.1 == a.1 := by
  funext field
  rw [Bool.eq_iff_iff, Proofs.tied_iff, beq_iff_eq]
  simp only [decide_eq_true_eq]
  constructor
  · rintro ⟨hle, hge⟩
    exact String.le_antisymm hge hle
  · intro heq
    rw [heq]
    exact ⟨String.le_refl _, String.le_refl _⟩

/-- Tables that have the same fields under some names are listed alike by
`snapshot`, as far as these names go. -/
theorem filter_snapshot_eq {p : String → Bool}
    (h : ∀ key, p key = true → fieldsAt key m₁.entries = fieldsAt key m₂.entries) :
    m₁.snapshot.filter (fun entry => p entry.1) = m₂.snapshot.filter (fun entry => p entry.1) := by
  have trans := Proofs.byText_trans (Prod.fst : String × TypeMapping → String)
  have total := Proofs.byText_total (Prod.fst : String × TypeMapping → String)
  refine Proofs.eq_of_pairwise_of_ties total
    ((List.pairwise_mergeSort trans total _).filter _)
    ((List.pairwise_mergeSort trans total _).filter _) ?_
  intro a
  -- Ties of `a` are the fields under its name: `h` speaks of them, or the filter drops them all.
  have hties : ∀ m : TypeMap, (m.snapshot.filter fun entry => p entry.1).filter
      (Proofs.tied (fun x y => decide (x.1 ≤ y.1)) a) =
      (fieldsAt a.1 m.entries).filter fun entry => p entry.1 := by
    intro m
    rw [List.filter_comm, snapshot, Proofs.filter_tied_mergeSort trans total, tied_eq_name,
      fieldsAt]
  rw [hties, hties]
  by_cases hp : p a.1 = true
  · rw [h a.1 hp]
  · have hnone : ∀ entries : List (String × TypeMapping),
        (fieldsAt a.1 entries).filter (fun entry => p entry.1) = [] := by
      intro entries
      rw [List.filter_eq_nil_iff]
      intro entry hentry
      rw [eq_of_beq (List.mem_filter.mp hentry).2]
      exact hp
    rw [hnone, hnone]

/-- Tables with the same fields under each name are listed alike:
`filter_snapshot_eq` for all names. -/
theorem snapshot_eq_of_fieldsAt
    (h : ∀ key, fieldsAt key m₁.entries = fieldsAt key m₂.entries) :
    m₁.snapshot = m₂.snapshot := by
  have hall := filter_snapshot_eq (p := fun _ => true) fun key _ => h key
  rwa [List.filter_true, List.filter_true] at hall

end Agreement

end SchemaTypes.TypeMap
