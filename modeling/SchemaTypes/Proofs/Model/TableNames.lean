import SchemaTypes.Proofs.Fields
import SchemaTypes.Proofs.Model.Gathering

/-!
# `SchemaTypes.Proofs.Model.TableNames`: from a table to its types and back

The table map of a model leads from a table to its type for reading, and
from both of its types back to the table. `Traced` is what one would like
to hold of every table: both ways agree, and the type for insertion is no
type for reading.

Type names are made from table names by a rule that is not injective, and
by appending a suffix, which can give the type name of another table. The
tables `user_account` and `userAccount` have one type name, and the type
for insertion into `user` has the name of the type for `user_insertion`.
Then one entry of the map takes the place of another.

`traced_iff_distinguished` says exactly when this does not happen: the
names alone decide, in whatever order the records stand. It goes through
`ofRecords_eq`, which lists the entries that records add to the map, and
through the entries that the tables of a build add.
-/

set_option autoImplicit false

namespace SchemaTypes.TableMap

open Json

/-! ### The entries that records add -/

/-- What a record adds to the names of tables. -/
def nameAdded (r : TypeRecord) : Option (String × String) :=
  let table := r.typeDef.sqlTable.getD ""
  if r.shape = .read ∧ table ≠ "" then some (table, r.name) else none

/-- What a record adds to the tables of names. -/
def tableAdded (r : TypeRecord) : Option (String × String) :=
  let table := r.typeDef.sqlTable.getD ""
  if r.shape ≠ .enum ∧ table ≠ "" then some (r.name, table) else none

/-- A record sets at most one field in each direction of the map.
`nameAdded` and `tableAdded` say which, so that a list of records can be
read as two lists of fields. -/
theorem insert_eq (m : TableMap) (r : TypeRecord) :
    m.insert r =
      { toName := setFields (nameAdded r).toList m.toName
        toTable := setFields (tableAdded r).toList m.toTable } := by
  unfold insert nameAdded tableAdded
  by_cases htable : r.typeDef.sqlTable.getD "" = ""
  · simp [htable, setFields]
  · cases hshape : r.shape <;> simp [htable, setFields]

/-- The entries are set by `setFields` one after the other, so of two for
one name the later counts. By induction on the records for a map that may
hold something already. -/
theorem ofRecords_eq (records : List TypeRecord) :
    ofRecords records =
      { toName := setFields (records.filterMap nameAdded) []
        toTable := setFields (records.filterMap tableAdded) [] } := by
  -- Generalised to a map that may hold entries, for the induction.
  have hfold : ∀ m : TableMap, records.foldl insert m =
      { toName := setFields (records.filterMap nameAdded) m.toName
        toTable := setFields (records.filterMap tableAdded) m.toTable } := by
    induction records with
    | nil => exact fun m => rfl
    | cons r records ih =>
      intro m
      have hentries : ∀ added : TypeRecord → Option (String × String),
          (r :: records).filterMap added = (added r).toList ++ records.filterMap added := by
        intro added
        rw [List.filterMap_cons]
        cases added r <;> rfl
      rw [List.foldl_cons, ih, insert_eq, hentries, hentries]
      unfold setFields
      rw [List.foldl_append, List.foldl_append]
  exact hfold {}

end SchemaTypes.TableMap

namespace SchemaTypes.Build

open Json TableMap Naming

section Entries

variable {s : Settings} {m : TypeMap} {declarations : List Declaration}

/-- Of the records of a build that adds to nothing, only both variants of
its tables count for the map. An enum adds nothing to it, neither by
`nameAdded` nor by `tableAdded`. -/
theorem filterMap_records_perm {added : TypeRecord → Option (String × String)}
    (henum : ∀ e, added (enumRecord s e) = none) :
    ((gathered s { typeMap := m } declarations).model.records.filterMap added).Perm
      ((tables declarations).flatMap fun t =>
        (variants s (m.registerAll (enums declarations)) t).filterMap added) := by
  have hrecords : (gathered s { typeMap := m } declarations).model.records.Perm
      ((enums declarations).map (enumRecord s) ++
        (tables declarations).flatMap (variants s (m.registerAll (enums declarations)))) :=
    List.mergeSort_perm _ _
  refine (hrecords.filterMap added).trans (List.Perm.of_eq ?_)
  have hnone : ((enums declarations).map (enumRecord s)).filterMap added = [] := by
    rw [List.filterMap_map, List.filterMap_eq_nil_iff]
    exact fun e _ => henum e
  rw [List.filterMap_append, hnone, List.nil_append, List.filterMap_flatMap]

/-- From a table `nameAdded` leads to its type for reading and not to the
one for insertion. -/
theorem nameAdded_tableRecord (s : Settings) (m : TypeMap) (t : Table) (ht : t.name ≠ "") :
    nameAdded (tableRecord s m t .read) = some (t.name, typeName t.name) ∧
      nameAdded (tableRecord s m t .insert) = none :=
  ⟨if_pos ⟨rfl, ht⟩, rfl⟩

/-- From both types of a table `tableAdded` leads back to it. -/
theorem tableAdded_tableRecord (s : Settings) (m : TypeMap) (t : Table) (ht : t.name ≠ "") :
    tableAdded (tableRecord s m t .read) = some (typeName t.name, t.name) ∧
      tableAdded (tableRecord s m t .insert) = some (typeName t.name ++ s.suffix, t.name) :=
  ⟨if_pos ⟨nofun, ht⟩, if_pos ⟨nofun, ht⟩⟩

variable (hnamed : ∀ t ∈ tables declarations, t.name ≠ "")

include hnamed

/-- The entries from tables to type names, by `nameAdded_tableRecord`: one
for each table, in the order in which their records are sorted. -/
theorem nameEntries_perm :
    ((gathered s { typeMap := m } declarations).model.records.filterMap nameAdded).Perm
      ((tables declarations).map fun t => (t.name, typeName t.name)) := by
  refine (filterMap_records_perm fun _ => rfl).trans (List.Perm.of_eq ?_)
  rw [List.map_eq_flatMap]
  refine List.flatMap_congr fun t ht => ?_
  obtain ⟨hread, hinsert⟩ :=
    nameAdded_tableRecord s (m.registerAll (enums declarations)) t (hnamed t ht)
  simp only [variants, List.filterMap_cons, List.filterMap_nil, hread, hinsert]

/-- The entries from type names to tables, by `tableAdded_tableRecord`: two
for each table. Two of them may have one type name, and then only the later
is kept. -/
theorem tableEntries_perm :
    ((gathered s { typeMap := m } declarations).model.records.filterMap tableAdded).Perm
      ((tables declarations).flatMap fun t =>
        [(typeName t.name, t.name), (typeName t.name ++ s.suffix, t.name)]) := by
  refine (filterMap_records_perm fun _ => rfl).trans (List.Perm.of_eq ?_)
  refine List.flatMap_congr fun t ht => ?_
  obtain ⟨hread, hinsert⟩ :=
    tableAdded_tableRecord s (m.registerAll (enums declarations)) t (hnamed t ht)
  simp only [variants, List.filterMap_cons, List.filterMap_nil, hread, hinsert]

/-- The tables lead to the type names made from their own names, and nothing
else leads to a type name (`nameEntries_perm`). -/
theorem mem_nameEntries {entry : String × String} :
    entry ∈ (gathered s { typeMap := m } declarations).model.records.filterMap nameAdded ↔
      ∃ t ∈ tables declarations, entry = (t.name, typeName t.name) := by
  rw [(nameEntries_perm hnamed).mem_iff, List.mem_map]
  simp only [eq_comm]

/-- Both type names of a table lead back to it, and no other name leads to a
table (`tableEntries_perm`). -/
theorem mem_tableEntries {entry : String × String} :
    entry ∈ (gathered s { typeMap := m } declarations).model.records.filterMap tableAdded ↔
      ∃ t ∈ tables declarations,
        entry = (typeName t.name, t.name) ∨ entry = (typeName t.name ++ s.suffix, t.name) := by
  rw [(tableEntries_perm hnamed).mem_iff, List.mem_flatMap]
  simp only [List.mem_cons, List.not_mem_nil, or_false]

end Entries

/-! ### When the map leads back -/

/-- The map leads from a table to its type for reading and from both of its
types back, and its type for insertion is no type for reading. -/
structure Traced (map : TableMap) (suffix : String) (t : Table) : Prop where
  name : map.toName.lookup t.name = some (typeName t.name)
  read : map.toTable.lookup (typeName t.name) = some t.name
  insertion : map.toTable.lookup (typeName t.name ++ suffix) = some t.name
  apart : ∀ entry ∈ map.toName, entry.2 ≠ typeName t.name ++ suffix

/-- Table names whose type names do not meet: two of them have one type
name only if they are equal, and none with the suffix is another without
it. -/
structure Distinguished (suffix : String) (names : List String) : Prop where
  read : ∀ a ∈ names, ∀ b ∈ names, typeName a = typeName b → a = b
  insertion : ∀ a ∈ names, ∀ b ∈ names, typeName a ++ suffix ≠ typeName b

section Traced

variable {s : Settings} {m : TypeMap} {declarations : List Declaration}

/-- The direction of the map from tables to types, as the fields that were
set (`ofRecords_eq`). -/
theorem toName_model (state : State) : state.model.tableMap.toName =
    setFields (state.model.records.filterMap nameAdded) [] :=
  congrArg TableMap.toName (ofRecords_eq state.model.records)

/-- The direction of the map from types to tables, as the fields that were
set (`ofRecords_eq`). -/
theorem toTable_model (state : State) : state.model.tableMap.toTable =
    setFields (state.model.records.filterMap tableAdded) [] :=
  congrArg TableMap.toTable (ofRecords_eq state.model.records)

variable (hnamed : ∀ t ∈ tables declarations, t.name ≠ "")

include hnamed

/-- Type names that do not meet leave every table its entries. A look-up
gives the last entry of a name (`lookup_setFields`), and where all entries
of the name agree it does not matter which one that is. -/
theorem Distinguished.traced
    (h : Distinguished s.suffix ((tables declarations).map Table.name)) {t : Table}
    (ht : t ∈ tables declarations) :
    Traced (gathered s { typeMap := m } declarations).model.tableMap s.suffix t := by
  have hmem : ∀ {t}, t ∈ tables declarations → t.name ∈ (tables declarations).map Table.name :=
    fun ht => List.mem_map_of_mem ht
  refine ⟨?_, ?_, ?_, ?_⟩
  · rw [toName_model, lookup_setFields, List.lookup_nil, Option.or_none]
    refine lastValue_eq_some_of_forall ((mem_nameEntries hnamed).mpr ⟨t, ht, rfl⟩) ?_
    intro other hother
    -- Tables of one name have one type name, so their entries agree.
    obtain ⟨t', -, heq⟩ := (mem_nameEntries hnamed).mp hother
    obtain ⟨hname, rfl⟩ := Prod.mk.inj heq
    rw [hname]
  · rw [toTable_model, lookup_setFields, List.lookup_nil, Option.or_none]
    refine lastValue_eq_some_of_forall ((mem_tableEntries hnamed).mpr ⟨t, ht, Or.inl rfl⟩) ?_
    intro other hother
    obtain ⟨t', ht', heq | heq⟩ := (mem_tableEntries hnamed).mp hother
    · obtain ⟨hname, rfl⟩ := Prod.mk.inj heq
      exact h.read _ (hmem ht') _ (hmem ht) hname.symm
    · exact absurd (Prod.mk.inj heq).1.symm (h.insertion _ (hmem ht') _ (hmem ht))
  · rw [toTable_model, lookup_setFields, List.lookup_nil, Option.or_none]
    refine lastValue_eq_some_of_forall ((mem_tableEntries hnamed).mpr ⟨t, ht, Or.inr rfl⟩) ?_
    intro other hother
    obtain ⟨t', ht', heq | heq⟩ := (mem_tableEntries hnamed).mp hother
    · exact absurd (Prod.mk.inj heq).1 (h.insertion _ (hmem ht) _ (hmem ht'))
    · obtain ⟨hname, rfl⟩ := Prod.mk.inj heq
      exact h.read _ (hmem ht') _ (hmem ht) ((String.append_left_inj s.suffix).mp hname).symm
  · intro entry hentry heq
    rw [toName_model] at hentry
    have hmade := (mem_of_mem_setFields hentry).resolve_right nofun
    obtain ⟨t', ht', rfl⟩ := (mem_nameEntries hnamed).mp hmade
    exact h.insertion _ (hmem ht) _ (hmem ht') heq.symm

omit hnamed in
/-- A map that leads back from every table, as `Traced` says, has different
type names for them. Tables with one type name would both be what it leads
to. -/
theorem distinguished_of_traced {map : TableMap} {suffix : String} {found : List Table}
    (h : ∀ t ∈ found, Traced map suffix t) : Distinguished suffix (found.map Table.name) where
  read := by
    intro a ha b hb heq
    obtain ⟨t, ht, rfl⟩ := List.mem_map.mp ha
    obtain ⟨t', ht', rfl⟩ := List.mem_map.mp hb
    have hread := (h t ht).read
    rw [heq, (h t' ht').read] at hread
    exact (Option.some.inj hread).symm
  insertion := by
    intro a ha b hb
    obtain ⟨t, ht, rfl⟩ := List.mem_map.mp ha
    obtain ⟨t', ht', rfl⟩ := List.mem_map.mp hb
    exact ((h t ht).apart _ (mem_of_lookup_eq_some (h t' ht').name)).symm

end Traced

/-- **The table map leads back from every table exactly if the type names
of the tables do not meet.** A build of known declarations whose tables
have names succeeds. Its table map leads from each table to its type for
reading and from both types back to the table, with no type for insertion
among the types for reading, if and only if different table names have
different type names and none of these with the suffix is another one. -/
theorem traced_iff_distinguished (s : Settings) (m : TypeMap) (declarations : List Declaration)
    (hknown : ∀ d ∈ declarations, isKnown d) (hnamed : ∀ t ∈ tables declarations, t.name ≠ "") :
    ∃ model, (run s { typeMap := m } declarations).2 = .ok model ∧
      ((∀ t ∈ tables declarations, Traced model.tableMap s.suffix t) ↔
        Distinguished s.suffix ((tables declarations).map Table.name)) := by
  refine ⟨(gathered s { typeMap := m } declarations).model, ?_, ?_, ?_⟩
  · rw [run_eq_gathered s _ declarations hknown]
  · exact distinguished_of_traced
  · exact fun h t ht => h.traced hnamed ht

/-- Two tables with different names: the type for insertion into the first
has the name of the type for reading the second. -/
def userTables : List Declaration :=
  [.table { name := "user", columns := [] }, .table { name := "user_insertion", columns := [] }]

/-- Different names for the tables and a suffix that is not empty do not
keep the type names apart, so the map does not lead back from both
tables. -/
theorem traced_iff_distinguished_userTables :
    (∀ d ∈ userTables, isKnown d) ∧ (∀ t ∈ tables userTables, t.name ≠ "") ∧
    ((tables userTables).map Table.name).Nodup ∧ defaultSuffix ≠ "" ∧
    ∃ model, (run { source := [] } { typeMap := .builtin } userTables).2 = .ok model ∧
      ¬ ∀ t ∈ tables userTables, Traced model.tableMap defaultSuffix t := by
  have hknown : ∀ d ∈ userTables, isKnown d := by decide
  have hnamed : ∀ t ∈ tables userTables, t.name ≠ "" := by decide
  obtain ⟨model, hrun, htraced⟩ :=
    traced_iff_distinguished { source := [] } .builtin userTables hknown hnamed
  refine ⟨hknown, hnamed, by decide, by decide, model, hrun, fun hall => ?_⟩
  exact (htraced.mp hall).insertion "user" (by decide) "user_insertion" (by decide) (by decide)

end SchemaTypes.Build
