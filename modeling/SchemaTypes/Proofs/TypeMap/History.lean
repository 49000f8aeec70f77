import SchemaTypes.Proofs.Sorting
import SchemaTypes.Proofs.TypeMap.Canonical
import SchemaTypes.Proofs.TypeMap.Overriding

/-!
# `SchemaTypes.Proofs.TypeMap.History`: tables that calls can lead to

A table of types is changed by two kinds of calls: a merge of override
entries, which may stop half-way, and the registration of an enum. A
history is a list of such calls on the table that a run starts from, each
made whether or not the one before it was refused.

Both kinds come down to setting one mapping under a canonical name.
`after_induction` packages this: a property that survives every override
of an entry and every registration holds after every history. The first
such property is `Keyed`, that names are canonical and stand once.

`keys_canonical` draws the conclusions. The listing of a table is strictly
ascending, each of its names resolves to the mapping listed with it, and
spellings of one type cannot be told apart.
-/

set_option autoImplicit false

namespace SchemaTypes.TypeMap

open Json (NamedOnce)

/-- A call that changes a table. -/
inductive Change where
  /-- Override entries are merged. -/
  | merge (entries : List (String × Json))
  /-- An enum is registered under its generated name. -/
  | enum (sqlName typeName : String)

/-- The table after a call, and the entry at which a merge stopped. -/
def apply (m : TypeMap) : Change → TypeMap × Option Refusal
  | .merge entries => m.merge entries
  | .enum sqlName typeName => (m.registerEnum sqlName typeName, none)

/-- The table after several calls. A call that is refused leaves the
entries that it merged before. -/
def after (m : TypeMap) (changes : List Change) : TypeMap :=
  changes.foldl (fun m change => (m.apply change).1) m

/-- Some merge among the calls has an override entry of this name with
these fields. -/
def Offered (changes : List Change) (key : String) (fields : List (String × Json)) : Prop :=
  ∃ entries, Change.merge entries ∈ changes ∧ (key, Json.obj fields) ∈ entries

/-! ### Induction over a history -/

section Induction

variable {P : TypeMap → Prop}

/-- A property that survives the override of each entry survives a `merge`,
also one that stops half-way: the table that is left then has the entries
before the one that was refused. -/
theorem merge_induction (entries : List (String × Json))
    (override : ∀ (m : TypeMap) (key : String) (fields : List (String × Json))
      (mapping : TypeMapping), (key, Json.obj fields) ∈ entries → P m →
      override (m.get? (canonicalName key)) fields = .valid mapping →
      P (m.set (canonicalName key) mapping))
    {m : TypeMap} (h : P m) : P (m.merge entries).1 := by
  induction entries generalizing m with
  | nil => exact h
  | cons entry rest ih =>
    obtain ⟨key, value⟩ := entry
    unfold merge
    cases hentry : m.mergeEntry key value with
    | error fault => exact h
    | ok next =>
      obtain ⟨fields, mapping, rfl, hvalid, rfl⟩ := mergeEntry_eq_ok_iff.mp hentry
      refine ih ?_ (override m key fields mapping List.mem_cons_self h hvalid)
      intro m key fields mapping hmem
      exact override m key fields mapping (List.mem_cons_of_mem _ hmem)

/-- A property that survives the override of each entry (`merge_induction`)
and each registration survives every history. Every fact about all tables
that can be reached is an instance of this. -/
theorem after_induction (changes : List Change)
    (override : ∀ (m : TypeMap) (key : String) (fields : List (String × Json))
      (mapping : TypeMapping), Offered changes key fields → P m →
      override (m.get? (canonicalName key)) fields = .valid mapping →
      P (m.set (canonicalName key) mapping))
    (enum : ∀ (m : TypeMap) (sqlName typeName : String), P m →
      P (m.set (canonicalName sqlName) (enumMapping typeName)))
    {m : TypeMap} (h : P m) : P (m.after changes) := by
  induction changes generalizing m with
  | nil => exact h
  | cons change changes ih =>
    refine ih ?_ ?_
    · rintro m key fields mapping ⟨entries, hmem, hentry⟩
      exact override m key fields mapping ⟨entries, List.mem_cons_of_mem _ hmem, hentry⟩
    · cases change with
      | enum sqlName typeName => exact enum m sqlName typeName h
      | merge entries =>
        refine merge_induction entries ?_ h
        intro m key fields mapping hentry
        exact override m key fields mapping ⟨entries, List.mem_cons_self, hentry⟩

end Induction

/-! ### Names of a table -/

/-- A table in which every name is canonical and stands once. -/
structure Keyed (m : TypeMap) : Prop where
  canonical : ∀ entry ∈ m.entries, canonicalName entry.1 = entry.1
  once : NamedOnce m.entries

/-- The built-in table is `Keyed`: its names are canonical and stand once.
This is checked by computing their canonical names. -/
theorem keyed_start (clear : Bool) : Keyed (start clear) := by
  cases clear with
  | true => exact ⟨nofun, List.Pairwise.nil⟩
  | false => exact ⟨by decide +kernel, by decide +kernel⟩

/-- Setting a mapping under a canonical name keeps the names canonical. This
is where the canonical name of a canonical name has to be itself
(`canonicalName_canonicalName`). -/
theorem Keyed.set {m : TypeMap} (h : m.Keyed) (name : String) (mapping : TypeMapping) :
    Keyed (m.set (canonicalName name) mapping) where
  canonical := by
    rintro ⟨key, value⟩ hentry
    rcases Json.mem_of_mem_setField hentry with heq | hold
    · simp only [(Prod.mk.inj heq).1, canonicalName_canonicalName]
    · exact h.canonical _ hold
  once := h.once.setField _ _

/-- Every history leads to a table that is `Keyed`, by `after_induction`. -/
theorem keyed_after (clear : Bool) (changes : List Change) :
    Keyed ((start clear).after changes) :=
  after_induction changes (fun _ key _ mapping _ h _ => h.set key mapping)
    (fun _ sqlName typeName h => h.set sqlName (enumMapping typeName)) (keyed_start clear)

section Keyed

variable {m : TypeMap} (h : m.Keyed)

/-- The listing by `snapshot` has the entries of the table and no others. -/
theorem perm_snapshot (m : TypeMap) : m.snapshot.Perm m.entries :=
  List.mergeSort_perm _ _

include h in
/-- The listing by `snapshot` is strictly ascending, since no name of a
table that is `Keyed` stands twice. -/
theorem Keyed.pairwise_snapshot : m.snapshot.Pairwise fun a b => a.1 < b.1 := by
  have hle : m.snapshot.Pairwise fun a b => decide (a.1 ≤ b.1) = true :=
    List.pairwise_mergeSort (Proofs.byText_trans Prod.fst) (Proofs.byText_total Prod.fst) m.entries
  have hne : m.snapshot.Pairwise fun a b => a.1 ≠ b.1 :=
    List.pairwise_map.mp ((m.perm_snapshot.map Prod.fst).nodup_iff.mpr h.once)
  refine (hle.and hne).imp ?_
  rintro a b ⟨hab, hdistinct⟩
  rcases Proofs.text_connected a.1 b.1 with hlt | heq | hgt
  · exact hlt
  · exact absurd heq hdistinct
  · exact absurd hgt (String.not_lt.mpr (of_decide_eq_true hab))

include h in
/-- A name of the table leads to the mapping that is kept under it, as it is
its own `canonicalName`. -/
theorem Keyed.get?_canonicalName {entry : String × TypeMapping} (hentry : entry ∈ m.entries) :
    m.get? (canonicalName entry.1) = some entry.2 := by
  rw [h.canonical entry hentry]
  exact h.once.lookup_eq_some_iff.mpr hentry

/-- A type has a mapping of its own if its canonical name is a name of the
table, that is one of its `snapshot`. -/
theorem contains_iff (m : TypeMap) (name : String) :
    m.contains name = true ↔ canonicalName name ∈ m.snapshot.map Prod.fst := by
  rw [(m.perm_snapshot.map Prod.fst).mem_iff]
  unfold contains get?
  rw [Option.isSome_iff_ne_none, ne_eq, Json.lookup_eq_none_iff_notMem, Classical.not_not]

/-- Spellings with one canonical name are answered alike, because every
question to the table starts with the `canonicalName`. -/
theorem answers_congr (m : TypeMap) {x y : String} (hxy : canonicalName x = canonicalName y) :
    m.resolve x = m.resolve y ∧ m.contains x = m.contains y := by
  unfold resolve contains
  rw [hxy]
  exact ⟨rfl, rfl⟩

end Keyed

/-- **Names of a table are canonical after every history.** Start from the
built-in table or from nothing and make any calls, refused ones included.
Then:

- every name of the table is its own canonical name;
- the listing has exactly the entries of the table, in strictly ascending
  order of their names, and each name resolves to the mapping listed with
  it and counts as contained;
- a type is contained exactly if its canonical name is listed, its
  canonical name is answered like the type itself, and so is every other
  spelling of the same canonical name. -/
theorem keys_canonical (clear : Bool) (changes : List Change) :
    let m := (start clear).after changes
    (∀ entry ∈ m.entries, canonicalName entry.1 = entry.1) ∧
    m.snapshot.Perm m.entries ∧ (m.snapshot.Pairwise fun a b => a.1 < b.1) ∧
    (∀ entry ∈ m.snapshot, m.resolve entry.1 = entry.2 ∧ m.contains entry.1 = true) ∧
    ∀ x, (m.contains x = true ↔ canonicalName x ∈ m.snapshot.map Prod.fst) ∧
      (m.resolve (canonicalName x) = m.resolve x ∧ m.contains (canonicalName x) = m.contains x) ∧
      ∀ y, canonicalName x = canonicalName y →
        m.resolve x = m.resolve y ∧ m.contains x = m.contains y := by
  intro m
  have hkeyed : m.Keyed := keyed_after clear changes
  refine ⟨hkeyed.canonical, m.perm_snapshot, hkeyed.pairwise_snapshot, ?_, ?_⟩
  · intro entry hlisted
    have hget := hkeyed.get?_canonicalName (m.perm_snapshot.mem_iff.mp hlisted)
    unfold resolve contains
    rw [hget]
    exact ⟨rfl, rfl⟩
  · intro x
    exact ⟨m.contains_iff x, m.answers_congr (canonicalName_canonicalName x),
      fun y hxy => m.answers_congr hxy⟩

end SchemaTypes.TypeMap
