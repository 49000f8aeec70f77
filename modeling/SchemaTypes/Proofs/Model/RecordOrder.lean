import SchemaTypes.Generate.Artifact
import SchemaTypes.Proofs.Emit.EnumValues
import SchemaTypes.Proofs.Emit.TypeDocuments
import SchemaTypes.Proofs.Model.Gathering

/-!
# `SchemaTypes.Proofs.Model.RecordOrder`: the order of records, in the model and in the targets

Records are collected in the order of the declarations and sorted once,
when the model is made. Each target sorts what it is given once more. For
the targets to list the types alike, sorting has to leave a sorted list as
it is, also where records tie.

`InOrder` says what the order is, without the ranks that the comparison
works with: enums first, and inside each group by base name without regard
to case, by base name, and reading before insertion. It holds of exactly
the lists that sorting leaves as they are (`sort_eq_self_iff`).

The suffix of insertion types is no part of this order, and names that
differ in case only stand close to each other. That the two types of a
table are neighbours even so comes from their base name: whatever stands
between two table types of one base name has that base name too
(`isTableType_of_le_of_le`).
-/

set_option autoImplicit false

namespace SchemaTypes.TypeRecord

open Proofs

/-! ### The order of records in words -/

/-- The order inside a group. The last part says that no type for insertion
stands before a type for reading with the same base name. -/
def Precedes (a b : TypeRecord) : Prop :=
  lexicographic (· < ·) (Text.lower a.baseName) (Text.lower b.baseName)
    (lexicographic (· < ·) a.baseName b.baseName (a.shape = .insert → b.shape = .insert))

/-- Records in the order in which types are listed. -/
structure InOrder (records : List TypeRecord) : Prop where
  /-- All enums stand before all table types. -/
  enums_first : records.Pairwise fun a b => b.shape = .enum → a.shape = .enum
  /-- Enums among themselves and table types among themselves are
  ascending. -/
  ascending : records.Pairwise fun a b => (a.shape = .enum ↔ b.shape = .enum) → Precedes a b

/-- The last key of the comparison, `shapeOrder`, puts insertion behind
everything else. -/
theorem shapeOrder_le_iff (a b : TypeRecord) :
    a.shapeOrder ≤ b.shapeOrder ↔ (a.shape = .insert → b.shape = .insert) := by
  unfold shapeOrder
  by_cases ha : a.shape = .insert <;> by_cases hb : b.shape = .insert <;> simp [ha, hb]

/-- The comparison of records looks at their groups first and inside a group
at `Precedes`. This is the comparison read without its numbers. -/
theorem le_iff_precedes (a b : TypeRecord) :
    le a b = true ↔ (b.shape = .enum → a.shape = .enum) ∧
      ((a.shape = .enum ↔ b.shape = .enum) → Precedes a b) := by
  rw [le_iff, shapeOrder_le_iff]
  show lexicographic _ _ _ (Precedes a b) ↔ _
  unfold lexicographic rank
  by_cases ha : a.shape = .enum <;> by_cases hb : b.shape = .enum <;> simp [ha, hb]

/-- A list is `InOrder` exactly if all its pairs compare that way, by
`le_iff_precedes`. -/
theorem inOrder_iff_pairwise {records : List TypeRecord} :
    InOrder records ↔ records.Pairwise (fun a b => le a b = true) := by
  simp only [le_iff_precedes, List.pairwise_and_iff]
  exact ⟨fun h => ⟨h.enums_first, h.ascending⟩, fun h => ⟨h.1, h.2⟩⟩

/-- Sorting leaves a list as it is exactly if the list is `InOrder`: the
result of sorting is in order, and a list in order is not changed. -/
theorem sort_eq_self_iff {records : List TypeRecord} :
    sort records = records ↔ InOrder records := by
  rw [inOrder_iff_pairwise]
  constructor
  · intro h
    rw [← h]
    exact pairwise_sort records
  · exact List.mergeSort_of_pairwise

/-! ### The types of one table -/

/-- Whether a record is a table type with a base name. -/
def isTableType (base : String) (r : TypeRecord) : Bool :=
  r.shape != .enum && r.baseName == base

/-- What `isTableType` says in terms of the group and the base name, which
are two of the keys of the comparison. -/
theorem isTableType_iff {base : String} {r : TypeRecord} :
    isTableType base r = true ↔ r.rank = 2 ∧ r.baseName = base := by
  unfold isTableType rank
  by_cases h : r.shape = .enum <;> simp [h]

/-- Between table types of one base name there is no other type: by
`isTableType_iff` they agree in the first three keys. -/
theorem isTableType_of_le_of_le {base : String} (a b c : TypeRecord) (hab : le a b) (hbc : le b c)
    (ha : isTableType base a) (hc : isTableType base c) : isTableType base b := by
  rw [isTableType_iff] at ha hc ⊢
  rw [le_iff] at hab hbc
  -- The first three keys of `a` and `c` are equal, so those of `b` are bound from both sides.
  rw [hc.1, ← ha.1, hc.2, ← ha.2] at hbc
  obtain ⟨hrank, hab, hbc⟩ := lexicographic_antisymm Nat.lt_asymm hab hbc
  obtain ⟨-, hab, hbc⟩ := lexicographic_antisymm String.lt_asymm hab hbc
  obtain ⟨hbase, -, -⟩ := lexicographic_antisymm String.lt_asymm hab hbc
  exact ⟨hrank.symm.trans ha.1, hbase.symm.trans ha.2⟩

/-- If two records are the only table types of their base name, one for
reading and one for insertion, they are neighbours in the sorted list. By
`isTableType_of_le_of_le` nothing can come between them. -/
theorem exists_sort_eq_append {records : List TypeRecord} {base : String} {read insert : TypeRecord}
    (hread : read.shape = .read) (hinsert : insert.shape = .insert)
    (hbase : read.baseName = insert.baseName)
    (honly : records.filter (isTableType base) = [read, insert]) :
    ∃ before after, sort records = before ++ read :: insert :: after := by
  obtain ⟨before, after, heq, -⟩ :=
    exists_eq_append_filter_append isTableType_of_le_of_le (pairwise_sort records)
      (p := isTableType base)
  have hle : le read insert := by
    rw [le_iff_precedes, hread, hinsert]
    simp [Precedes, lexicographic, hbase, hread]
  have hpair : (sort records).filter (isTableType base) = [read, insert] := by
    unfold sort
    rw [filter_mergeSort le_trans le_total, honly]
    exact List.mergeSort_of_pairwise (List.pairwise_pair.mpr hle)
  rw [hpair, List.append_assoc] at heq
  exact ⟨before, after, heq⟩

end SchemaTypes.TypeRecord

namespace SchemaTypes.Emit

/-! ### Targets that list types -/

/-- A line of the text starts with this. -/
def HasLineFrom (text start : String) : Prop :=
  ∃ before rest after, text = joinText (before ++ (start ++ rest) :: after)

/-- A target that lists types: what it has in front, the block of each
type, and how the line starts that declares the type in its block. -/
structure Target where
  header : String
  block : TypeRecord → String
  start : TypeRecord → String

/-- The text has the blocks of the records in their order, and each block
declares its type. -/
structure Target.Lists (target : Target) (records : List TypeRecord) (text : String) : Prop where
  text_eq : text = joinBlocks (records.map target.block) target.header
  declares : ∀ r ∈ records, HasLineFrom (target.block r) (target.start r)

/-- Interfaces and unions. -/
def typeScriptTarget : Target where
  header := ""
  block r := if r.shape = .enum then unionText r else interfaceText r
  start r :=
    if r.shape = .enum then "export type " ++ r.name ++ "=" else "export interface " ++ r.name

/-- Schema constants. -/
def zodTarget : Target where
  header := zodHeader
  block := schemaBlock
  start r := "export const " ++ schemaName r.name ++ "="

/-- Structs and enums. -/
def convoTarget : Target where
  header := convoHeader
  block r := if r.shape = .enum then enumText r else structText r
  start r := r.name ++ if r.shape = .enum then " = enum(" else " = struct("

/-- The artifacts that list types. -/
def targets : List (ArtifactKind × Target) :=
  [(.typeScript, typeScriptTarget), (.zod, zodTarget), (.convo, convoTarget)]

/-- A text of lines has a line with a given start if one of the lines that
`joinText` joins starts so. -/
theorem hasLineFrom_joinText {lines : List String} {start : String} (rest : String)
    (hline : start ++ rest ∈ lines) : HasLineFrom (joinText lines) start := by
  obtain ⟨before, after, rfl⟩ := List.append_of_mem hline
  exact ⟨before, rest, after, rfl⟩

/-- The block of a type in `typeScriptTarget` has a line that declares its
name, as a union for an enum and as an interface for a table. -/
theorem typeScriptTarget_declares (r : TypeRecord) :
    HasLineFrom (typeScriptTarget.block r) (typeScriptTarget.start r) := by
  show HasLineFrom (if _ then _ else _) (if _ then _ else _)
  split
  · rw [unionText_eq, String.append_assoc, unionFront, ← joinText_concat_append]
    exact hasLineFrom_joinText _ (List.mem_append_right _ (List.mem_singleton.mpr rfl))
  · exact hasLineFrom_joinText "" (by simp [TypeRecord.name])

/-- The block of a type in `zodTarget` has a line that exports its
schema. -/
theorem zodTarget_declares (r : TypeRecord) :
    HasLineFrom (zodTarget.block r) (zodTarget.start r) := by
  obtain ⟨comment, body, hblock⟩ := exports_schemaBlock r
  show HasLineFrom (schemaBlock r) ("export const " ++ schemaName r.name ++ "=")
  rw [hblock]
  exact hasLineFrom_joinText body (by simp)

/-- The block of a type in `convoTarget` has a line that starts with its
name. -/
theorem convoTarget_declares (r : TypeRecord) :
    HasLineFrom (convoTarget.block r) (convoTarget.start r) := by
  show HasLineFrom (if _ then _ else _) (r.name ++ if _ then _ else _)
  split
  · rw [enumText_eq, String.append_assoc, enumTextFront, ← joinText_concat_append]
    exact hasLineFrom_joinText _ (List.mem_append_right _ (List.mem_singleton.mpr rfl))
  · exact hasLineFrom_joinText "" (by simp [TypeRecord.name])

/-- A target lists records that are in order as they stand. Each target
sorts the records before it writes them, which by `sort_eq_self_iff` changes
nothing. -/
theorem lists_render {kind : ArtifactKind} {target : Target} (h : (kind, target) ∈ targets)
    {c : Compiled} (horder : TypeRecord.InOrder c.model.records) :
    target.Lists c.model.records (c.render kind) := by
  have hsort := TypeRecord.sort_eq_self_iff.mpr horder
  -- Each target writes the blocks of its records after sorting them.
  have hlists : ∀ text, text = joinBlocks ((TypeRecord.sort c.model.records).map target.block)
      target.header → (∀ r, HasLineFrom (target.block r) (target.start r)) →
      target.Lists c.model.records text := by
    intro text htext hdeclares
    rw [hsort] at htext
    exact ⟨htext, fun r _ => hdeclares r⟩
  simp only [targets, List.mem_cons, Prod.mk.injEq, List.not_mem_nil, or_false] at h
  rcases h with ⟨rfl, rfl⟩ | ⟨rfl, rfl⟩ | ⟨rfl, rfl⟩
  · exact hlists _ rfl typeScriptTarget_declares
  · exact hlists _ rfl zodTarget_declares
  · exact hlists _ rfl convoTarget_declares

end SchemaTypes.Emit

namespace SchemaTypes.Build

open Naming (typeName)
open TypeRecord (isTableType)

/-- The base names that keep the two types of each table together: no two
tables share one, and no table type from before has one of them. -/
structure TablesApart (records : List TypeRecord) (declarations : List Declaration) : Prop where
  among : ((tables declarations).map fun t => typeName t.name).Nodup
  before : ∀ r ∈ records, r.shape ≠ .enum → ∀ t ∈ tables declarations, r.baseName ≠ typeName t.name

/-- The `variants` of a table have the base name that its type name is, and
no other. -/
theorem isTableType_of_mem_variants {s : Settings} {m : TypeMap} {t : Table} {base : String}
    {r : TypeRecord} (hr : r ∈ variants s m t) :
    isTableType base r = true ↔ typeName t.name = base := by
  obtain ⟨shape, hshape, rfl⟩ := mem_variants.mp hr
  rw [TypeRecord.isTableType_iff, and_iff_right (rank_tableRecord s m t hshape)]
  rfl

/-- Of the records of a build, the table types with the base name of a table
are the two variants of that table. The other records are those of before,
of enums, and of tables with another base name, which `TablesApart` keeps
away. -/
theorem filter_isTableType_gathered {s : Settings} {state : State} {ds : List Declaration}
    (h : TablesApart state.records ds) {t : Table} (ht : t ∈ tables ds) :
    (gathered s state ds).records.filter (isTableType (typeName t.name)) =
      variants s (gathered s state ds).typeMap t := by
  let m := (gathered s state ds).typeMap
  have hbefore : state.records.filter (isTableType (typeName t.name)) = [] := by
    rw [List.filter_eq_nil_iff]
    intro r hr hsame
    simp only [isTableType, Bool.and_eq_true, bne_iff_ne, beq_iff_eq] at hsame
    exact h.before r hr hsame.1 t ht hsame.2
  have henums : ((enums ds).map (enumRecord s)).filter (isTableType (typeName t.name)) = [] := by
    rw [List.filter_eq_nil_iff]
    intro r hr
    obtain ⟨e, -, rfl⟩ := List.mem_map.mp hr
    exact Bool.false_ne_true
  have hself : (variants s m t).filter (isTableType (typeName t.name)) = variants s m t := by
    rw [List.filter_eq_self]
    intro r hr
    exact (isTableType_of_mem_variants hr).mpr rfl
  have hothers : ∀ others : List Table, (∀ t' ∈ others, typeName t'.name ≠ typeName t.name) →
      (others.flatMap (variants s m)).filter (isTableType (typeName t.name)) = [] := by
    intro others hne
    rw [List.filter_eq_nil_iff]
    intro r hr hsame
    obtain ⟨t', ht', hr⟩ := List.mem_flatMap.mp hr
    exact hne t' ht' ((isTableType_of_mem_variants hr).mp hsame)
  show (state.records ++ _ ++ (tables ds).flatMap (variants s m)).filter _ = variants s m t
  -- The tables around `t` have other base names, since base names are different.
  obtain ⟨front, back, hsplit⟩ := List.append_of_mem ht
  have hamong := h.among
  rw [hsplit, List.map_append, List.map_cons, List.nodup_append] at hamong
  obtain ⟨-, hback, hfront⟩ := hamong
  rw [hsplit, List.flatMap_append, List.flatMap_cons, List.filter_append, List.filter_append,
    List.filter_append, List.filter_append, hbefore, henums, hself, hothers front, hothers back]
  · simp
  · intro t' ht' heq
    exact (List.nodup_cons.mp hback).1 (List.mem_map.mpr ⟨t', ht', heq⟩)
  · intro t' ht'
    exact hfront _ (List.mem_map_of_mem ht') _ List.mem_cons_self

/-- **Types are listed in one order.** A build ends well exactly if every
declaration is of a known kind. Take a build that does, from any state and
with any settings.

- The records of the model are the collected ones, in order, and sorting
  them again changes nothing.
- The TypeScript declarations, the Zod schemas and the Convo-Lang
  definitions have the blocks of these records in the same order, and each
  block declares its type.
- If the base names of the tables are kept apart, the type for insertion of
  each table comes directly after its type for reading. -/
theorem records_in_order (s : Settings) (state : State) (ds : List Declaration) :
    ((∃ final model, run s state ds = (final, .ok model)) ↔ ∀ d ∈ ds, isKnown d) ∧
    ∀ final model, run s state ds = (final, .ok model) →
      model.records.Perm final.records ∧ TypeRecord.InOrder model.records ∧
      TypeRecord.sort model.records = model.records ∧
      (∀ source, ∀ entry ∈ Emit.targets,
        entry.2.Lists model.records (Compiled.render ⟨source, ds, model⟩ entry.1)) ∧
      (TablesApart state.records ds → ∀ t ∈ tables ds, ∃ before after,
        model.records = before ++ tableRecord s final.typeMap t .read ::
          tableRecord s final.typeMap t .insert :: after) := by
  refine ⟨exists_run_eq_ok_iff s state ds, ?_⟩
  intro final model hrun
  have hknown : ∀ d ∈ ds, isKnown d := (exists_run_eq_ok_iff s state ds).mp ⟨final, model, hrun⟩
  rw [run_eq_gathered s state ds hknown] at hrun
  cases hrun
  have horder : TypeRecord.InOrder (gathered s state ds).model.records :=
    TypeRecord.inOrder_iff_pairwise.mpr (TypeRecord.pairwise_sort _)
  refine ⟨List.mergeSort_perm _ _, horder, TypeRecord.sort_eq_self_iff.mpr horder, ?_, ?_⟩
  · intro source entry hentry
    exact Emit.lists_render (c := ⟨source, ds, _⟩) hentry horder
  · intro hapart t ht
    exact TypeRecord.exists_sort_eq_append rfl rfl rfl (filter_isTableType_gathered hapart ht)

/-- Two tables whose base names differ in case only, and an enum with the
base name of one of them. -/
def caseTwins : List Declaration :=
  [.table { name := "userid", columns := [] }, .table { name := "user_id", columns := [] },
   .enum { name := "user_id", values := ["none"] }]

/-- The types of the two tables are not mixed, although nothing but the
variant tells the two types of a table apart: the suffix is empty. -/
theorem records_in_order_caseTwins :
    Text.lower (typeName "userid") = Text.lower (typeName "user_id") ∧
    TablesApart [] caseTwins ∧
    ∃ final model, run { source := [], suffix := "" } { typeMap := .builtin } caseTwins =
        (final, .ok model) ∧
      TypeRecord.InOrder model.records ∧
      ∀ t ∈ tables caseTwins, ∃ before after,
        model.records =
          before ++ tableRecord { source := [], suffix := "" } final.typeMap t .read ::
            tableRecord { source := [], suffix := "" } final.typeMap t .insert :: after := by
  have hlower : Text.lower (typeName "userid") = Text.lower (typeName "user_id") := by
    decide +kernel
  have hapart : TablesApart [] caseTwins := ⟨by decide +kernel, nofun⟩
  obtain ⟨hends, hmodel⟩ :=
    records_in_order { source := [], suffix := "" } { typeMap := .builtin } caseTwins
  obtain ⟨final, model, hrun⟩ := hends.mpr (by decide)
  obtain ⟨-, horder, -, -, htogether⟩ := hmodel final model hrun
  exact ⟨hlower, hapart, final, model, hrun, horder, htogether hapart⟩

end SchemaTypes.Build
