import Mathlib.Data.List.Induction
import SchemaTypes.Proofs.Model.TableNames

/-!
# `SchemaTypes.Proofs.Model.TableEntries`: the last record under a name counts

The table map is filled record by record, and an entry takes the place of
an earlier one under the same name. `LastCounts` says what is in the map in
the end, by the records alone: under each table the type of the last record
for reading it, under each type name the table of the last record that has
the name and a table, and nothing else.

`Paired` is what remains of this where no entry is ever replaced. Then the
map has one way from each table to its type for reading and two ways back.
`last_record_counts` proves the first of every list of records, and the
second of every build whose tables and types have different names. The
order in which the records stand after sorting does not matter for it,
because different names leave nothing to replace.
-/

set_option autoImplicit false

namespace SchemaTypes

/-- Whether `a` is the last member of a list with a property. -/
def IsLast {α : Type} (p : α → Prop) (l : List α) (a : α) : Prop :=
  ∃ before behind, l = before ++ a :: behind ∧ p a ∧ ∀ b ∈ behind, ¬ p b

namespace IsLast

variable {α : Type} {p q : α → Prop} {l : List α} {a b : α}

/-- An empty list has no last member, whatever `IsLast` asks of it. -/
theorem not_nil : ¬ IsLast p [] a := by
  rintro ⟨before, behind, hnil, -⟩
  simp at hnil

/-- The last member of a longer list is the one that was added, if it has
the property, and that of the shorter list otherwise. Inductions on `IsLast`
go from the end by this. -/
theorem append_singleton_iff :
    IsLast p (l ++ [b]) a ↔ p b ∧ a = b ∨ ¬ p b ∧ IsLast p l a := by
  constructor
  · rintro ⟨before, behind, hsplit, ha, hbehind⟩
    -- What stands behind is empty exactly if the added member is the one.
    rcases List.eq_nil_or_concat' behind with rfl | ⟨init, last, rfl⟩
    · obtain ⟨-, rfl⟩ := List.append_singleton_inj.mp hsplit
      exact Or.inl ⟨ha, rfl⟩
    · rw [← List.cons_append, ← List.append_assoc] at hsplit
      obtain ⟨rfl, rfl⟩ := List.append_singleton_inj.mp hsplit
      refine Or.inr ⟨hbehind b (by simp), before, init, rfl, ha, ?_⟩
      exact fun c hc => hbehind c (List.mem_append_left _ hc)
  · rintro (⟨hb, rfl⟩ | ⟨hb, before, behind, rfl, ha, hbehind⟩)
    · exact ⟨l, [], rfl, hb, fun c hc => absurd hc List.not_mem_nil⟩
    · refine ⟨before, behind ++ [b], by simp, ha, ?_⟩
      intro c hc
      rcases List.mem_append.mp hc with hc | hc
      · exact hbehind c hc
      · obtain rfl := List.mem_singleton.mp hc
        exact hb

/-- The last member with a property has it, the first part of `IsLast`. -/
theorem holds (h : IsLast p l a) : p a := by
  obtain ⟨before, behind, -, ha, -⟩ := h
  exact ha

end IsLast

namespace TableMap

open Json

/-- Whether a record is a type for reading a table. -/
def ReadsTable (table : String) (r : TypeRecord) : Prop :=
  r.shape = .read ∧ r.typeDef.sqlTable = some table

/-- Whether a record has a name and belongs to a table, whose own name is
not empty. -/
def NamesTable (name : String) (r : TypeRecord) : Prop :=
  r.shape ≠ .enum ∧ r.name = name ∧ ∃ table, r.typeDef.sqlTable = some table ∧ table ≠ ""

/-- What the table map of a list of records has to hold. -/
structure LastCounts (records : List TypeRecord) (map : TableMap) : Prop where
  /-- A table leads to the type of the last record for reading it. -/
  name : ∀ table name, map.toName.lookup table = some name ↔
    table ≠ "" ∧ ∃ r, IsLast (ReadsTable table) records r ∧ r.name = name
  /-- A type name leads to the table of the last record with that name. -/
  table : ∀ name table, map.toTable.lookup name = some table ↔
    ∃ r, IsLast (NamesTable name) records r ∧ r.typeDef.sqlTable = some table
  /-- No entry is hidden behind another one under the same name. -/
  tablesOnce : NamedOnce map.toName
  namesOnce : NamedOnce map.toTable

/-! ### Entries of the last record -/

/-- Where each member of a list gives at most one field, a name has the
value that the last member with a field of that name gives it: `lastValue`
and `IsLast` agree. -/
theorem lastValue_filterMap_eq_some_iff {α β : Type} {added : β → Option (String × α)}
    {key : String} {p : β → Prop} (hp : ∀ b, p b ↔ ∃ v, added b = some (key, v)) {value : α}
    (l : List β) :
    lastValue key (l.filterMap added) = some value ↔
      ∃ b, IsLast p l b ∧ added b = some (key, value) := by
  induction l using List.reverseRecOn with
  | nil =>
    refine iff_of_false (Option.some_ne_none value).symm ?_
    rintro ⟨b, hb, -⟩
    exact IsLast.not_nil hb
  | append_singleton l b ih =>
    rw [List.filterMap_append, lastValue_append]
    simp only [IsLast.append_singleton_iff]
    -- The member at the end decides if it has a field of the name, and otherwise the rest does.
    by_cases hb : p b
    · obtain ⟨v, hv⟩ := (hp b).mp hb
      have hlast : lastValue key ([b].filterMap added) = some v := by
        rw [List.filterMap_cons_some hv, List.filterMap_nil, lastValue_singleton, if_pos rfl]
      rw [hlast, Option.some_or]
      simp [hb, hv]
    · have hnone : lastValue key ([b].filterMap added) = none := by
        cases hadded : added b with
        | none =>
          rw [List.filterMap_cons_none hadded]
          rfl
        | some field =>
          rw [List.filterMap_cons_some hadded, List.filterMap_nil, lastValue_singleton, if_neg]
          rintro rfl
          exact hb ((hp b).mpr ⟨field.2, hadded⟩)
      rw [hnone, Option.none_or, ih]
      simp [hb]

/-- A record leads from a table to its type if it is for reading that table
(`ReadsTable`), and the table has a name. -/
theorem nameAdded_eq_some_iff {r : TypeRecord} {table name : String} :
    nameAdded r = some (table, name) ↔ (ReadsTable table r ∧ table ≠ "") ∧ r.name = name := by
  unfold nameAdded ReadsTable
  cases r.typeDef.sqlTable with
  | none => simp
  | some stored => grind

/-- A record leads from its name to a table if it belongs to that table
(`NamesTable`). -/
theorem tableAdded_eq_some_iff {r : TypeRecord} {name table : String} :
    tableAdded r = some (name, table) ↔
      NamesTable name r ∧ r.typeDef.sqlTable = some table := by
  unfold tableAdded NamesTable
  cases r.typeDef.sqlTable with
  | none => simp
  | some stored => grind

/-- The map of a list of records is filled by the last record of each name,
as `LastCounts` says. -/
theorem lastCounts_ofRecords (records : List TypeRecord) :
    LastCounts records (ofRecords records) where
  name := by
    intro table name
    rw [ofRecords_eq, lookup_setFields, List.lookup_nil, Option.or_none]
    by_cases htable : table = ""
    · -- A table without a name has no entry, since no record adds one.
      have hnone : lastValue table (records.filterMap nameAdded) ≠ some name := by
        rw [Ne, lastValue_filterMap_eq_some_iff fun _ => Iff.rfl]
        rintro ⟨r, -, hadded⟩
        exact (nameAdded_eq_some_iff.mp hadded).1.2 htable
      exact iff_of_false hnone fun h => h.1 htable
    · have hreads : ∀ r, ReadsTable table r ↔ ∃ name, nameAdded r = some (table, name) := by
        simp [nameAdded_eq_some_iff, htable]
      rw [lastValue_filterMap_eq_some_iff hreads]
      simp only [nameAdded_eq_some_iff]
      constructor
      · rintro ⟨r, hlast, -, hname⟩
        exact ⟨htable, r, hlast, hname⟩
      · rintro ⟨-, r, hlast, hname⟩
        exact ⟨r, hlast, ⟨hlast.holds, htable⟩, hname⟩
  table := by
    intro name table
    have hnames : ∀ r, NamesTable name r ↔ ∃ table, tableAdded r = some (name, table) := by
      intro r
      simp only [tableAdded_eq_some_iff, exists_and_left]
      exact ⟨fun h => ⟨h, h.2.2.imp fun _ => And.left⟩, And.left⟩
    rw [ofRecords_eq, lookup_setFields, List.lookup_nil, Option.or_none,
      lastValue_filterMap_eq_some_iff hnames]
    simp only [tableAdded_eq_some_iff]
    constructor
    · rintro ⟨r, hlast, -, htable⟩
      exact ⟨r, hlast, htable⟩
    · rintro ⟨r, hlast, htable⟩
      exact ⟨r, hlast, hlast.holds, htable⟩
  tablesOnce := by
    rw [ofRecords_eq]
    exact NamedOnce.setFields (show NamedOnce [] from List.nodup_nil) _
  namesOnce := by
    rw [ofRecords_eq]
    exact NamedOnce.setFields (show NamedOnce [] from List.nodup_nil) _

end TableMap

namespace Build

open Json TableMap
open Naming (typeName)

/-- Both type names of a table lead to it. -/
def waysBack (suffix : String) (t : Table) : List (String × String) :=
  [(typeName t.name, t.name), (typeName t.name ++ suffix, t.name)]

/-- What the table map of a build has to hold if no two of the names meet. -/
structure Paired (suffix : String) (found : List Table) (map : TableMap) : Prop where
  /-- The tables are joined with their types for reading, one to one. -/
  names : map.toName.Perm (found.map fun t => (t.name, typeName t.name))
  tablesOnce : (map.toName.map Prod.fst).Nodup
  namesOnce : (map.toName.map Prod.snd).Nodup
  /-- Every table has its two ways back, and there are no others. -/
  tables : map.toTable.Perm (found.flatMap (waysBack suffix))
  two : ∀ t ∈ found,
    (map.toTable.filter fun entry => entry.2 = t.name).Perm (waysBack suffix t)
  /-- From a table and back one is where one was. -/
  back : ∀ t ∈ found, map.toName.lookup t.name = some (typeName t.name) ∧
    map.toTable.lookup (typeName t.name) = some t.name ∧
    map.toTable.lookup (typeName t.name ++ suffix) = some t.name

/-- Of the `waysBack` from types to tables with different names, two lead to
each table. -/
theorem filter_waysBack {suffix : String} {found : List Table}
    (hnames : (found.map Table.name).Nodup) {t : Table} (ht : t ∈ found) :
    (found.flatMap (waysBack suffix)).filter (fun entry => entry.2 = t.name) =
      waysBack suffix t := by
  -- The tables on both sides of `t` have other names, so nothing of theirs is kept.
  obtain ⟨before, behind, rfl⟩ := List.append_of_mem ht
  rw [List.map_append, List.map_cons, List.nodup_append] at hnames
  obtain ⟨-, hcons, happend⟩ := hnames
  have hother : ∀ others : List Table, (∀ other ∈ others, other.name ≠ t.name) →
      (others.flatMap (waysBack suffix)).filter (fun entry => entry.2 = t.name) = [] := by
    intro others hothers
    rw [List.filter_eq_nil_iff]
    intro entry hentry
    obtain ⟨other, hmem, hway⟩ := List.mem_flatMap.mp hentry
    have hsnd : entry.2 = other.name := by
      rcases List.mem_pair.mp hway with rfl | rfl <;> rfl
    simpa [hsnd] using hothers other hmem
  have hbefore : ∀ other ∈ before, other.name ≠ t.name := fun other hmem =>
    happend _ (List.mem_map_of_mem hmem) _ List.mem_cons_self
  have hbehind : ∀ other ∈ behind, other.name ≠ t.name := fun other hmem heq =>
    (List.nodup_cons.mp hcons).1 (heq ▸ List.mem_map_of_mem hmem)
  rw [List.flatMap_append, List.flatMap_cons, List.filter_append, List.filter_append,
    hother before hbefore, hother behind hbehind, List.nil_append, List.append_nil]
  simp [waysBack]

/-- The map of a model is that of its records, so the last record under each
name counts (`lastCounts_ofRecords`). -/
theorem lastCounts_model (state : State) :
    LastCounts state.model.records state.model.tableMap :=
  lastCounts_ofRecords state.model.records

section Paired

variable {s : Settings} {m : TypeMap} {declarations : List Declaration}
  (hnamed : ∀ t ∈ tables declarations, t.name ≠ "")
  (htables : ((tables declarations).map Table.name).Nodup)
  (htypes : (((tables declarations).flatMap (waysBack s.suffix)).map Prod.fst).Nodup)

include hnamed htables in
/-- Different table names leave all entries for tables in the map, so it has
one for each table (`nameEntries_perm`). -/
theorem toName_perm :
    (gathered s { typeMap := m } declarations).model.tableMap.toName.Perm
      ((tables declarations).map fun t => (t.name, typeName t.name)) := by
  have hentries := nameEntries_perm (s := s) (m := m) hnamed
  have honce : NamedOnce ((tables declarations).map fun t => (t.name, typeName t.name)) := by
    show ((List.map _ _).map Prod.fst).Nodup
    rw [List.map_map]
    exact htables
  rw [toName_model, setFields_of_namedOnce (honce.perm hentries), List.nil_append]
  exact hentries

include hnamed htypes in
/-- Different type names leave all entries for types in the map, so it has
two for each table (`tableEntries_perm`). -/
theorem toTable_perm :
    (gathered s { typeMap := m } declarations).model.tableMap.toTable.Perm
      ((tables declarations).flatMap (waysBack s.suffix)) := by
  have hentries := tableEntries_perm (s := s) (m := m) hnamed
  have honce : NamedOnce ((tables declarations).flatMap (waysBack s.suffix)) := htypes
  rw [toTable_model, setFields_of_namedOnce (honce.perm hentries), List.nil_append]
  exact hentries

include htypes in
/-- If both type names of all tables are different, those for reading are.
The way from tables to types in `Paired` needs this half only. -/
theorem nodup_readNames : ((tables declarations).map fun t => typeName t.name).Nodup := by
  refine List.Nodup.sublist ?_ htypes
  rw [List.map_flatMap]
  induction tables declarations with
  | nil => exact List.Sublist.refl _
  | cons t rest ih => exact (ih.cons _).cons_cons _

include hnamed htables htypes in
/-- With different names for tables and types, the map pairs every table
with its two types and holds nothing else, as `Paired` says. -/
theorem paired_gathered :
    Paired s.suffix (tables declarations)
      (gathered s { typeMap := m } declarations).model.tableMap := by
  have hnames := toName_perm (s := s) (m := m) hnamed htables
  have hback := toTable_perm (m := m) hnamed htypes
  refine ⟨hnames, ?_, ?_, hback, ?_, ?_⟩
  · rw [(hnames.map Prod.fst).nodup_iff, List.map_map]
    exact htables
  · rw [(hnames.map Prod.snd).nodup_iff, List.map_map]
    exact nodup_readNames htypes
  · intro t ht
    rw [← filter_waysBack htables ht]
    exact hback.filter _
  · intro t ht
    -- Each name stands once in the map, so a look-up finds every entry that is there.
    have hmap := lastCounts_model (gathered s { typeMap := m } declarations)
    have hways : ∀ entry ∈ waysBack s.suffix t,
        entry ∈ (tables declarations).flatMap (waysBack s.suffix) := by
      intro entry hentry
      exact List.mem_flatMap.mpr ⟨t, ht, hentry⟩
    rw [hmap.tablesOnce.lookup_eq_some_iff, hmap.namesOnce.lookup_eq_some_iff,
      hmap.namesOnce.lookup_eq_some_iff, hnames.mem_iff, hback.mem_iff, hback.mem_iff]
    exact ⟨List.mem_map.mpr ⟨t, ht, rfl⟩, hways _ (by simp [waysBack]),
      hways _ (by simp [waysBack])⟩

end Paired

/-- **The last record under a name counts.** The table map of any list of
records holds, for each table that has a name, the type of the last record
for reading it, and for each type name the table of the last record with
that name that belongs to a table.

A build of known declarations succeeds. If its tables have names, all
different, and all type names of its tables are different as well, then its
map joins the tables with their types for reading one to one, has two ways
back to each table, and leads from each table over both of its types back
to the table. -/
theorem last_record_counts :
    (∀ records, LastCounts records (ofRecords records)) ∧
    ∀ (s : Settings) (m : TypeMap) (declarations : List Declaration),
      (∀ d ∈ declarations, isKnown d) →
      (∀ t ∈ tables declarations, t.name ≠ "") →
      ((tables declarations).map Table.name).Nodup →
      ((tables declarations).flatMap fun t =>
        [typeName t.name, typeName t.name ++ s.suffix]).Nodup →
      ∃ model, (run s { typeMap := m } declarations).2 = .ok model ∧
        Paired s.suffix (tables declarations) model.tableMap := by
  refine ⟨lastCounts_ofRecords, ?_⟩
  intro s m declarations hknown hnamed htables htypes
  refine ⟨(gathered s { typeMap := m } declarations).model, ?_, ?_⟩
  · rw [run_eq_gathered s _ declarations hknown]
  · refine paired_gathered hnamed htables ?_
    rw [List.map_flatMap]
    exact htypes

/-- Two tables, and an enum whose type has the name of a type for
insertion. -/
def shadowedTables : List Declaration :=
  [.table { name := "user", columns := [] }, .enum { name := "user_insertion", values := [] },
   .table { name := "account", columns := [] }]

/-- The enum adds nothing to the map, and the name leads to the table. -/
theorem last_record_counts_shadowedTables :
    (∀ d ∈ shadowedTables, isKnown d) ∧ (∀ t ∈ tables shadowedTables, t.name ≠ "") ∧
    ((tables shadowedTables).map Table.name).Nodup ∧
    ((tables shadowedTables).flatMap fun t =>
      [typeName t.name, typeName t.name ++ defaultSuffix]).Nodup ∧
    typeName "user_insertion" = typeName "user" ++ defaultSuffix ∧
    ∃ model, (run { source := [] } { typeMap := .builtin } shadowedTables).2 = .ok model ∧
      model.tableMap.toTable.length = 4 ∧
      model.tableMap.toTable.lookup "UserInsertion" = some "user" := by
  have hknown : ∀ d ∈ shadowedTables, isKnown d := by decide
  have hnamed : ∀ t ∈ tables shadowedTables, t.name ≠ "" := by decide
  have htables : ((tables shadowedTables).map Table.name).Nodup := by decide
  have htypes : ((tables shadowedTables).flatMap fun t =>
      [typeName t.name, typeName t.name ++ defaultSuffix]).Nodup := by decide
  obtain ⟨model, hrun, hpaired⟩ :=
    last_record_counts.2 { source := [] } .builtin shadowedTables hknown hnamed htables htypes
  refine ⟨hknown, hnamed, htables, htypes, by decide, model, hrun, ?_, ?_⟩
  · exact hpaired.tables.length_eq
  · exact (hpaired.back { name := "user", columns := [] } (by decide)).2.2

end Build

end SchemaTypes
