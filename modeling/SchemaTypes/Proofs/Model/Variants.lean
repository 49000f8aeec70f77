import Mathlib.Data.List.Forall2
import SchemaTypes.Proofs.Model.Gathering

/-!
# `SchemaTypes.Proofs.Model.Variants`: the two types of a table

A table gives one type for the rows that are read and one for the rows
that are inserted. The two are built one after the other by the same
steps, and code that is generated from one is used together with code
from the other. So they have to agree wherever a row does not change on
its way into the database. `IsPair` says what this means for the types and
`Matched` what it means for the properties of one column.

`records_by_declaration` shows it for every table of a build, and counts
on the way: each enum has one record, each table has such a pair, any
other statement has none, and sorting loses and repeats nothing, also
where several records have one name.
-/

set_option autoImplicit false

namespace SchemaTypes.Build

open Naming (typeName)

/-- The properties that one column has in the two variants of its table.
They are equal but for two things. The one for insertion has no
description, and it may be left out more often: whenever the other may,
and otherwise exactly if the column has a default. -/
structure Matched (read insert : Property) : Prop where
  agree : insert = { read with optional := insert.optional, description := none }
  optional : read.optional = true → insert.optional = true
  required : read.optional = false → (insert.optional = true ↔ read.hasDefault = true)

/-- A property that is made from a column. -/
structure StandsFor (column : Column) (p : Property) : Prop where
  name : p.name = column.name
  type : p.type.sql = some column.dataType.base
  hasDefault : p.hasDefault = column.hasDefault
  arrayDimensions : p.arrayDimensions = column.dataType.depth

/-- The records of the two variants of a table. The type for insertion is
the type for reading under a longer name, without a description, with a
reference to the other and with its own properties. Those for reading
stand for the columns in their order, and those for insertion match them
one by one. -/
structure IsPair (s : Settings) (t : Table) (read insert : TypeRecord) : Prop where
  shapes : read.shape = .read ∧ insert.shape = .insert
  kind : read.typeDef.kind = .table
  table : read.typeDef.sqlTable = some t.name
  agree : insert.typeDef =
    { read.typeDef with
      name := read.name ++ s.suffix
      description := none
      insertFor := some read.name
      props := insert.typeDef.props }
  columns : List.Forall₂ StandsFor t.columns read.typeDef.props
  props : List.Forall₂ Matched read.typeDef.props insert.typeDef.props

/-- The records that a declaration has to add to a build. -/
inductive Adds (s : Settings) : Declaration → List TypeRecord → Prop
  | enum {e : EnumType} {r : TypeRecord} (shape : r.shape = .enum) (kind : r.typeDef.kind = .enum)
      (name : r.name = typeName e.name) (values : r.enumValues = e.values) :
      Adds s (.enum e) [r]
  | table {t : Table} {read insert : TypeRecord} (pair : IsPair s t read insert) :
      Adds s (.table t) [read, insert]
  | unsupported (kind : String) (extent : Extent) : Adds s (.unsupported kind extent) []

section Pair

variable (s : Settings) (m : TypeMap)

/-- A property stands for its column in either variant, as `StandsFor` says:
its name, the base of its type, its default and its array levels are those
of the column. -/
theorem standsFor_property (keys : List String) (shape : Shape) (column : Column) :
    StandsFor column (property s m keys shape column) :=
  ⟨rfl, rfl, rfl, rfl⟩

/-- A default is all that insertion adds to the reasons to leave a property
out, as `optional_property` has them. -/
theorem optional_property_insert (keys : List String) (column : Column) :
    (property s m keys .insert column).optional =
      ((property s m keys .read column).optional || column.hasDefault) := by
  rw [optional_property, optional_property]
  show (_ || column.hasDefault) = ((_ || false) || column.hasDefault)
  rw [Bool.or_false]

/-- The properties of one column in the two variants are `Matched`: they
differ in whether they may be left out and in their description, and in
nothing else. -/
theorem matched_property (keys : List String) (column : Column) :
    Matched (property s m keys .read column) (property s m keys .insert column) where
  agree := rfl
  optional := by
    intro hread
    rw [optional_property_insert, hread, Bool.true_or]
  required := by
    intro hread
    rw [optional_property_insert, hread, Bool.false_or]
    exact Iff.rfl

/-- The primary key is the first column that is part of the key, in either
variant. It is read off the properties, which differ, by a flag that does
not (`Property.primary`). -/
theorem primaryKey_tableRecord (t : Table) (shape : Shape) :
    (tableRecord s m t shape).typeDef.primaryKey =
      (t.columns.find? fun column =>
        column.primary || t.primaryKeys.contains column.name).map Column.name := by
  show ((t.columns.map _).find? Property.primary).map Property.name = _
  rw [List.find?_map, Option.map_map]
  rfl

/-- The two records of a table are a pair as `IsPair` describes it. -/
theorem isPair_variants (t : Table) :
    IsPair s t (tableRecord s m t .read) (tableRecord s m t .insert) where
  shapes := ⟨rfl, rfl⟩
  kind := rfl
  table := rfl
  agree := by
    -- The primary key is read off the properties, and these are not the same list.
    have hkey : (tableRecord s m t .insert).typeDef.primaryKey =
        (tableRecord s m t .read).typeDef.primaryKey := by
      rw [primaryKey_tableRecord, primaryKey_tableRecord]
    dsimp only
    rw [← hkey]
    rfl
  columns := by
    show List.Forall₂ StandsFor t.columns (t.columns.map _)
    rw [List.forall₂_map_right_iff, List.forall₂_same]
    intro column _
    exact standsFor_property s m t.primaryKeys .read column
  props := by
    show List.Forall₂ Matched (t.columns.map _) (t.columns.map _)
    rw [List.forall₂_map_left_iff, List.forall₂_map_right_iff, List.forall₂_same]
    intro column _
    exact matched_property s m t.primaryKeys column

/-- A declaration of a known kind `Adds` the records that it has to: one for
an enum, a pair for a table (`isPair_variants`), and none for anything
else. -/
theorem adds_made {d : Declaration} (h : isKnown d) : Adds s d (made s m d) := by
  cases d with
  | enum e => exact .enum rfl rfl rfl rfl
  | table t => exact .table (isPair_variants s m t)
  | unsupported kind extent => exact .unsupported kind extent
  | foreign kind => exact absurd h Bool.false_ne_true

end Pair

/-- **The two types of a table differ only where they should.** Take
declarations of known kinds and any state of a build. They build, and the
records fall into groups, one for each declaration: one record for an
enum, a pair of matching records for a table, and none for any other
statement. The state has the records it had and those of the groups,
nothing lost and nothing twice, and the model has the same records as the
state. -/
theorem records_by_declaration (s : Settings) (state : State) (ds : List Declaration)
    (hknown : ∀ d ∈ ds, isKnown d) :
    ∃ final model groups, run s state ds = (final, .ok model) ∧
      List.Forall₂ (Adds s) ds groups ∧
      final.records.Perm (state.records ++ groups.flatten) ∧
      model.records.Perm final.records := by
  let final := gathered s state ds
  refine ⟨final, final.model, ds.map (made s final.typeMap), run_eq_gathered s state ds hknown,
    ?_, ?_, ?_⟩
  · rw [List.forall₂_map_right_iff, List.forall₂_same]
    intro d hd
    exact adds_made s final.typeMap (hknown d hd)
  · rw [← List.flatMap_def]
    exact gathered_records_perm_made s state ds
  · exact List.mergeSort_perm final.records TypeRecord.le

/-- Two tables and an enum whose types have one name, and a statement that
gives no type. -/
def accountSchema : List Declaration :=
  [.table { name := "user_account"
            columns := [{ name := "id", dataType := .named "serial", primary := true,
                          hasDefault := true },
                        { name := "note", dataType := .array "array" (.named "text") }] },
   .unsupported "create index" {},
   .enum { name := "UserAccount", values := ["open", "closed"] },
   .table { name := "userAccount", columns := [] }]

/-- None of the five records takes the place of another. -/
theorem records_by_declaration_accounts :
    (∀ d ∈ accountSchema, isKnown d) ∧
      ∃ final model groups,
        run { source := [] } { typeMap := .builtin } accountSchema = (final, .ok model) ∧
        List.Forall₂ (Adds { source := [] }) accountSchema groups ∧
        groups.map List.length = [2, 0, 1, 2] ∧ model.records.length = 5 := by
  have hknown : ∀ d ∈ accountSchema, isKnown d := by decide
  refine ⟨hknown, ?_⟩
  obtain ⟨final, model, groups, hrun, hgroups, hadded, hsorted⟩ :=
    records_by_declaration { source := [] } { typeMap := .builtin } accountSchema hknown
  -- Each group is as long as its declaration says.
  have hlengths : groups.map List.length = [2, 0, 1, 2] := by
    have hcases := hgroups
    simp only [accountSchema, List.forall₂_cons_left_iff, List.forall₂_nil_left_iff] at hcases
    obtain ⟨_, _, htable, ⟨_, _, hindex, ⟨_, _, henum, ⟨_, _, htable', rfl, rfl⟩,
      rfl⟩, rfl⟩, rfl⟩ := hcases
    cases htable
    cases hindex
    cases henum
    cases htable'
    rfl
  refine ⟨final, model, groups, hrun, hgroups, hlengths, ?_⟩
  rw [hsorted.length_eq, hadded.length_eq, List.length_append, List.length_flatten, hlengths]
  rfl

end SchemaTypes.Build
