import SchemaTypes.Proofs.Declaration.TableElements
import SchemaTypes.Proofs.Model.Gathering

/-!
# `SchemaTypes.Proofs.Model.Optionality`: which properties may be left out

Whether a property of a generated type is optional is settled by what the
statement says of its column, over several steps: the constraints of the
column, the constraints of the table, the union of both into the primary
key, and the rule of each variant. `Follows` states the outcome in the
words of the statement alone.

`table_follows_statement` shows it for every statement that declares a
table, in any build that contains the table, together with the primary
key of the type: it is the first column that is part of the key.
-/

set_option autoImplicit false

namespace SchemaTypes.Build

open Sql (Token Tree)
open Declaration (ColumnDef columnDef? tableElements ofStatement)

/-- What the property of a column has to be in a variant of its table,
which has the given elements. -/
structure Follows (elements : List Tree) (shape : Shape) (c : ColumnDef) (p : Property) : Prop where
  name : p.name = c.name
  read : shape = .read → p.optional = !(c.notNull || c.isKey elements)
  insert : shape = .insert → p.optional = (!(c.notNull || c.isKey elements) || c.hasDefault)
  primary : p.primary = c.isKey elements
  hasDefault : p.hasDefault = c.hasDefault

/-- The property of a column that was read follows its definition in the
sense of `Follows`, if the given keys are those that the elements list. -/
theorem follows_property (s : Settings) (m : TypeMap) {elements : List Tree} {keys : List String}
    (shape : Shape) {c : ColumnDef} {column : Column} (hreads : c.Reads column)
    (hkeys : keys.contains c.name = elements.any (Declaration.listsKey c.name)) :
    Follows elements shape c (property s m keys shape column) := by
  -- The key is asked for by the name that was read, which is the one of the definition.
  have hprimary : (column.primary || keys.contains column.name) = c.isKey elements := by
    rw [hreads.primary, hreads.name, hkeys, ColumnDef.isKey]
  refine ⟨hreads.name, ?_, ?_, hprimary, hreads.hasDefault⟩
  · rintro rfl
    rw [optional_property, hprimary, hreads.notNull]
    exact Bool.or_false _
  · rintro rfl
    rw [optional_property, hprimary, hreads.notNull, hreads.hasDefault]
    rfl

/-- Both variants of a table follow the statement that declares it, by
`follows_property` for each column. -/
theorem forall₂_follows (s : Settings) (m : TypeMap) {tokens : List Token} {tree : Option Tree}
    {t : Table} (h : ofStatement tokens tree = .ok (.table t)) (shape : Shape) :
    List.Forall₂ (Follows (tableElements tree) shape)
      ((tableElements tree).filterMap columnDef?) (tableRecord s m t shape).typeDef.props := by
  show List.Forall₂ _ _ (t.columns.map _)
  rw [List.forall₂_map_right_iff]
  refine (Declaration.forall₂_columns h).imp fun c column hreads => ?_
  exact follows_property s m shape hreads
    (Declaration.contains_primaryKeys h hreads.name_ne)

/-- The first property that is part of the key has the name of the first
column that is, as `ColumnDef.isKey` says. -/
theorem find?_primary_of_forall₂ {elements : List Tree} {shape : Shape} {columns : List ColumnDef}
    {props : List Property} (h : List.Forall₂ (Follows elements shape) columns props) :
    (props.find? Property.primary).map Property.name =
      (columns.find? fun c => c.isKey elements).map ColumnDef.name := by
  induction h with
  | nil => rfl
  | @cons c p columns props hfollows _ ih =>
    rw [List.find?_cons, List.find?_cons, hfollows.primary]
    cases c.isKey elements with
    | true => exact congrArg some hfollows.name
    | false => exact ih

/-- **Properties are optional as the statement says.** Take a statement
that declares a table, and any build over declarations of known kinds
that contains it. The build succeeds and records both variants of the
table. Each has one property for each column definition of the statement,
in order, that follows the definition, and its primary key is the first
column that is part of the key. -/
theorem table_follows_statement {tokens : List Token} {tree : Option Tree} {t : Table}
    (h : ofStatement tokens tree = .ok (.table t)) (s : Settings) (state : State)
    (ds : List Declaration) (hknown : ∀ d ∈ ds, isKnown d) (ht : Declaration.table t ∈ ds) :
    ∃ final model, run s state ds = (final, .ok model) ∧
      ∀ shape, shape ≠ Shape.enum →
        tableRecord s final.typeMap t shape ∈ model.records ∧
          List.Forall₂ (Follows (tableElements tree) shape)
            ((tableElements tree).filterMap columnDef?)
            (tableRecord s final.typeMap t shape).typeDef.props ∧
          (tableRecord s final.typeMap t shape).typeDef.primaryKey =
            (((tableElements tree).filterMap columnDef?).find? fun c =>
              c.isKey (tableElements tree)).map ColumnDef.name := by
  refine ⟨_, _, run_eq_gathered s state ds hknown, ?_⟩
  intro shape hshape
  have hprops := forall₂_follows s (gathered s state ds).typeMap h shape
  exact ⟨tableRecord_mem_model ht hshape, hprops, find?_primary_of_forall₂ hprops⟩

/-- A table with a counted column that excludes nulls last, a key column
with a direction, and an array of counted values. -/
def keyedTree : Tree :=
  .create (some "TABLE") (some (.schema (some (.table (some "t") none))
    [.columnDef (some "a") (some (.dataType "SERIAL" []))
      [.columnConstraint (some (.notNull true)), .notNull false],
     .columnDef (some "b") (some (.dataType "INT" [])) [],
     .columnDef (some "c") (some (.dataType "ARRAY" [.dataType "SERIAL" []])) [],
     .constraint (some "k") [.other "comment", .primaryKey [.ordered (some (.column "b"))]]]))

/-- The table that `keyedTree` declares, if the statement is one token
long. -/
def keyedTable : Table where
  name := "t"
  columns :=
    [{ name := "a", dataType := .named "serial", notNull := true, hasDefault := true },
     { name := "b", dataType := .named "int" },
     { name := "c", dataType := .array "array" (.named "serial") }]
  constraints := [⟨.primaryKey, some "k", ["b"]⟩]
  extent := ⟨some 0, some 1⟩

/-- The counted column must be there on reading and may be missing on
insertion, the key column must be there in both, and the array in
neither. -/
theorem table_follows_statement_keyedTree :
    ofStatement [⟨.word, "t", 0, 0⟩] (some keyedTree) = .ok (.table keyedTable) ∧
      ∃ final model, run { source := [] } { typeMap := .builtin } [.table keyedTable] =
          (final, .ok model) ∧
        ∃ read ∈ model.records, ∃ insert ∈ model.records,
          read.typeDef.props.map Property.optional = [false, false, true] ∧
          insert.typeDef.props.map Property.optional = [true, false, true] ∧
          read.typeDef.primaryKey = some "b" := by
  have hread : ofStatement [⟨.word, "t", 0, 0⟩] (some keyedTree) = .ok (.table keyedTable) :=
    rfl
  refine ⟨hread, ?_⟩
  obtain ⟨final, model, hrun, hvariants⟩ :=
    table_follows_statement hread { source := [] } { typeMap := .builtin } [.table keyedTable]
      (by decide) List.mem_cons_self
  obtain ⟨hmem, hprops, hkey⟩ := hvariants .read nofun
  obtain ⟨hmem', hprops', -⟩ := hvariants .insert nofun
  refine ⟨final, model, hrun, _, hmem, _, hmem', ?_, ?_, ?_⟩
  · rw [← Proofs.map_eq_of_forall₂ (hprops.imp fun c p hp => (hp.read rfl).symm)]
    decide +kernel
  · rw [← Proofs.map_eq_of_forall₂ (hprops'.imp fun c p hp => (hp.insert rfl).symm)]
    decide +kernel
  · rw [hkey]
    decide +kernel

end SchemaTypes.Build
