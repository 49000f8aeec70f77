import Mathlib.Data.List.Forall2
import SchemaTypes.Proofs.Emit.Blocks
import SchemaTypes.Proofs.Model.Gathering

/-!
# `SchemaTypes.Proofs.Model.EnumColumns`: columns whose type is an enum

A column of an enum type has to come out with the type that is generated
for the enum, wherever in the schema the enum is declared and whatever
the table of types held under its name. `Resolved` states this for one
column and one property, with the other case beside it: a column whose
type no enum has is spelled as the table of types spells it.

`enum_columns_resolve` shows both for every column of every table, in
both variants, and goes on to the text of the schemas: the blocks of all
enums stand before those of all tables, and the block of each enum
declares the constant that the columns refer to.
-/

set_option autoImplicit false

namespace SchemaTypes.Build

open TypeMap (canonicalName lastNamed)
open Naming (typeName)

/-- What the property made of a column has to be, if `declared` are the
enums of the schema and `m` is the table of types before them. -/
structure Resolved (m : TypeMap) (declared : List EnumType) (column : Column) (p : Property) :
    Prop where
  name : p.name = column.name
  /-- A type that is named like an enum is that of the last such enum, and
  nothing else is known of it. -/
  enum : (∃ e ∈ declared, canonicalName e.name = canonicalName column.dataType.base) →
    ∃ e, lastNamed (canonicalName column.dataType.base) declared = some e ∧
      p.type =
        { name := typeName e.name
          ts := some (typeName e.name)
          zod := some (Emit.schemaName (typeName e.name))
          convo := none
          sql := some column.dataType.base
          extras := [] }
  /-- Any other type keeps the mapping it had, as long as no enum takes the
  name that stands for unknown types, and so every target spells it as
  before. -/
  other : (∀ e ∈ declared, canonicalName e.name ≠ canonicalName column.dataType.base) →
    (∀ e ∈ declared, canonicalName e.name ≠ TypeMap.defaultKey) →
    p.type = { m.resolve column.dataType.base with
        ts := some (m.resolve column.dataType.base).tsType
        sql := some column.dataType.base } ∧
      p.type.tsType = (m.resolve column.dataType.base).tsType ∧
      p.type.zodType = (m.resolve column.dataType.base).zodType ∧
      p.type.convoType = (m.resolve column.dataType.base).convoType

/-- A property made with the table in which all enums are registered is
`Resolved`: to the last enum of its name, or as it was before. -/
theorem resolved_property (s : Settings) (m : TypeMap) (declared : List EnumType)
    (keys : List String) (shape : Shape) (column : Column) :
    Resolved m declared column (property s (m.registerAll declared) keys shape column) where
  name := rfl
  enum := by
    rintro ⟨e, he, hname⟩
    -- If any enum has the name, one of them is the last.
    have hsome : lastNamed (canonicalName column.dataType.base) declared ≠ none := by
      intro hnone
      exact TypeMap.lastNamed_eq_none_iff.mp hnone e he hname
    obtain ⟨last, hlast⟩ := Option.ne_none_iff_exists'.mp hsome
    refine ⟨last, hlast, ?_⟩
    unfold property
    rw [TypeMap.resolve_registerAll_of_some hlast m]
    rfl
  other := by
    intro hnames hdefault
    unfold property
    rw [TypeMap.resolve_registerAll_of_none hnames hdefault m]
    exact ⟨rfl, rfl, rfl, rfl⟩

/-- Both variants of a table resolve all of its columns, in their order, by
`resolved_property` for each. -/
theorem forall₂_resolved (s : Settings) (m : TypeMap) (declared : List EnumType) (t : Table)
    (shape : Shape) :
    List.Forall₂ (Resolved m declared) t.columns
      (tableRecord s (m.registerAll declared) t shape).typeDef.props := by
  show List.Forall₂ _ t.columns (t.columns.map _)
  rw [List.forall₂_map_right_iff, List.forall₂_same]
  intro column _
  exact resolved_property s m declared t.primaryKeys shape column

/-- **Columns of an enum type resolve to the enum.** Take declarations of
known kinds in any order, from any state. They build, and:

- every column of every table is resolved in both variants;
- the schemas of the model are the blocks of the enum records followed by
  those of the table records, and each declared enum has its record among
  the first, whose block declares the constant of the enum. -/
theorem enum_columns_resolve (s : Settings) (state : State) (ds : List Declaration)
    (hknown : ∀ d ∈ ds, isKnown d) :
    ∃ final model, run s state ds = (final, .ok model) ∧
      (∀ t, Declaration.table t ∈ ds → ∀ shape, shape ≠ Shape.enum →
        tableRecord s final.typeMap t shape ∈ model.records ∧
          List.Forall₂ (Resolved state.typeMap (enums ds)) t.columns
            (tableRecord s final.typeMap t shape).typeDef.props) ∧
      ∃ first rest, model.records = first ++ rest ∧
        (∀ r ∈ first, r.shape = .enum) ∧ (∀ r ∈ rest, r.shape ≠ .enum) ∧
        Emit.zod model.records =
          Emit.joinBlocks (first.map Emit.enumSchema ++ rest.map Emit.objectSchema)
            Emit.zodHeader ∧
        ∀ e, Declaration.enum e ∈ ds → enumRecord s e ∈ first ∧
          ∃ front back, Emit.enumSchema (enumRecord s e) =
            front ++ "\n" ++ Emit.schemaDeclaration (typeName e.name) ++ back := by
  refine ⟨gathered s state ds, (gathered s state ds).model, run_eq_gathered s state ds hknown,
    ?_, ?_⟩
  · intro t ht shape hshape
    exact ⟨tableRecord_mem_model ht hshape, forall₂_resolved s state.typeMap (enums ds) t shape⟩
  · let records := (gathered s state ds).model.records
    refine ⟨records.filter fun r => r.shape = .enum, records.filter fun r => r.shape ≠ .enum,
      ?_, ?_, ?_, ?_, ?_⟩
    · exact (TypeRecord.filter_enum_append_of_pairwise (TypeRecord.pairwise_sort _)).symm
    · intro r hr
      simpa using (List.mem_filter.mp hr).2
    · intro r hr
      simpa using (List.mem_filter.mp hr).2
    · -- The schemas sort once more, which changes nothing in the records of a model.
      exact Emit.zod_sort_eq_enums_append _
    · intro e he
      refine ⟨List.mem_filter.mpr ⟨enumRecord_mem_model he, by simp [enumRecord]⟩, ?_⟩
      exact Emit.enumSchema_declares (enumRecord s e)

/-- A table whose column is an array of an enum that is declared twice,
after the table and in other spellings. -/
def lateEnum : List Declaration :=
  [.table { name := "person"
            columns := [{ name := "moods", dataType := .array "array" (.named "Mood") }] },
   .enum { name := "mood", values := ["sad"] },
   .unsupported "create index" {},
   .enum { name := "MOOD", values := ["sad", "glad"] }]

/-- The later of the two enums gives the type, in both variants. -/
theorem enum_columns_resolve_lateEnum :
    (∀ d ∈ lateEnum, isKnown d) ∧
      ∃ final model, run { source := [] } { typeMap := .builtin } lateEnum = (final, .ok model) ∧
        ∀ shape, shape ≠ Shape.enum → ∃ r ∈ model.records, r.shape = shape ∧
          ∃ p ∈ r.typeDef.props, p.name = "moods" ∧
            p.type.zod = some (Emit.schemaName (typeName "MOOD")) := by
  have hknown : ∀ d ∈ lateEnum, isKnown d := by decide
  refine ⟨hknown, ?_⟩
  obtain ⟨final, model, hrun, htables, -⟩ :=
    enum_columns_resolve { source := [] } { typeMap := .builtin } lateEnum hknown
  refine ⟨final, model, hrun, ?_⟩
  intro shape hshape
  obtain ⟨hmem, hprops⟩ := htables _ List.mem_cons_self shape hshape
  refine ⟨_, hmem, rfl, ?_⟩
  -- The first column is the one that has the type of the enum.
  obtain ⟨hmoods, -⟩ := List.forall₂_cons.mp hprops
  obtain ⟨e, he, htype⟩ := hmoods.enum ⟨_, List.mem_cons_self, by decide +kernel⟩
  have hlast : lastNamed (canonicalName "Mood") (enums lateEnum) =
      some { name := "MOOD", values := ["sad", "glad"] } := by
    decide +kernel
  obtain rfl : _ = e := Option.some.inj (hlast.symm.trans he)
  exact ⟨_, List.mem_cons_self, rfl, congrArg TypeMapping.zod htype⟩

end SchemaTypes.Build
