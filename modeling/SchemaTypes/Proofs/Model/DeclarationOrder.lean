import Mathlib.Data.List.Nodup
import SchemaTypes.Generate.Artifact
import SchemaTypes.Proofs.Model.Gathering

/-!
# `SchemaTypes.Proofs.Model.DeclarationOrder`: the order of declarations does not show

A schema may declare its tables and enums in any order. The records are
gathered in the order of the declarations and enums are registered one by
one, so the order is present in the state of a build. It is gone from the
model: as long as no two enums share a canonical or a generated name and
no two tables share a base name, a permutation of the declarations gives
an equal model. `run_eq_of_perm` states this, together with the artifacts
that are written from it.

Three facts carry the proof. The registered names agree name by name,
because each name has one enum at most. The records are a permutation,
because a table record reads the table of types only through `resolve`.
And different records never tie in the sorted order.
-/

set_option autoImplicit false

namespace SchemaTypes.Build

open TypeMap (canonicalName)
open Naming (typeName)

/-- The names that declarations have to keep apart so that their order
does not show. -/
structure NamesApart (declarations : List Declaration) : Prop where
  /-- No two enums have the same canonical name. -/
  canonical : ((enums declarations).map fun e => canonicalName e.name).Nodup
  /-- No two enums have the same generated name. -/
  enums : ((enums declarations).map fun e => typeName e.name).Nodup
  /-- No two tables have the same base name. -/
  tables : ((tables declarations).map fun t => typeName t.name).Nodup

section Permutation

variable {s : Settings} {m : TypeMap} {ds ds' : List Declaration} (hperm : ds.Perm ds')
  (hnames : NamesApart ds)

include hperm hnames

/-- The registered tables have the same fields under each name, because the
last enum of a name is the only one (`TypeMap.lastNamed_eq_of_perm`). -/
theorem fieldsAt_registerAll_perm (key : String) :
    Json.fieldsAt key (m.registerAll (enums ds)).entries =
      Json.fieldsAt key (m.registerAll (enums ds')).entries := by
  rw [TypeMap.fieldsAt_registerAll, TypeMap.fieldsAt_registerAll,
    TypeMap.lastNamed_eq_of_perm (enums_perm hperm) hnames.canonical key]

/-- The records that are `gathered` are the same up to their order: those of
the enums are permuted, and those of the tables resolve their columns
alike. -/
theorem gathered_records_perm :
    (gathered s { typeMap := m } ds).records.Perm
      (gathered s { typeMap := m } ds').records := by
  have hvariants : variants s (m.registerAll (enums ds)) =
      variants s (m.registerAll (enums ds')) := by
    funext t
    refine variants_eq_of_resolve s fun column _ => ?_
    exact TypeMap.resolve_eq_of_fieldsAt (fieldsAt_registerAll_perm hperm hnames _)
      (fieldsAt_registerAll_perm hperm hnames _)
  show (_ ++ _ ++ _ : List TypeRecord).Perm _
  -- The records of tables depend on the types as well, so these come first.
  rw [hvariants]
  refine List.Perm.append (List.Perm.append (List.Perm.refl _) ?_) ?_
  · exact (enums_perm hperm).map _
  · exact List.Perm.flatMap_right _ (tables_perm hperm)

end Permutation

/-- A record of a build that started from none is an `enumRecord` or one of
the two of a table. -/
theorem gathered_record_cases {s : Settings} {m : TypeMap} {ds : List Declaration}
    {r : TypeRecord} (h : r ∈ (gathered s { typeMap := m } ds).records) :
    (∃ e ∈ enums ds, r = enumRecord s e) ∨
      ∃ t ∈ tables ds, ∃ shape, shape ≠ Shape.enum ∧
        r = tableRecord s (m.registerAll (enums ds)) t shape := by
  have h : r ∈ ([] : List TypeRecord) ++ (enums ds).map (enumRecord s) ++
      (tables ds).flatMap (variants s (m.registerAll (enums ds))) := h
  rw [List.nil_append, List.mem_append, List.mem_map, List.mem_flatMap] at h
  rcases h with ⟨e, he, rfl⟩ | ⟨t, ht, hr⟩
  · exact Or.inl ⟨e, he, rfl⟩
  · exact Or.inr ⟨t, ht, mem_variants.mp hr⟩

/-- The place among the variants, `shapeOrder`, tells the two variants of
tables apart. -/
theorem eq_of_shapeOrder_eq {s : Settings} {m : TypeMap} {t t' : Table} {shape shape' : Shape}
    (h : shape ≠ .enum) (h' : shape' ≠ .enum)
    (horder : (tableRecord s m t shape).shapeOrder = (tableRecord s m t' shape').shapeOrder) :
    shape = shape' := by
  have horder : (if shape = .insert then 1 else 0) = if shape' = .insert then 1 else 0 := horder
  cases shape with
  | enum => exact absurd rfl h
  | read | insert => cases shape' <;> simp_all

/-- Where names are kept apart, as `NamesApart` says, records that tie are
equal. Enums and tables are told apart by their group, enums by their names,
and the records of tables by base name and variant. -/
theorem eq_of_tied {s : Settings} {m : TypeMap} {ds : List Declaration} (hnames : NamesApart ds)
    {a b : TypeRecord} (ha : a ∈ (gathered s { typeMap := m } ds).records)
    (hb : b ∈ (gathered s { typeMap := m } ds).records)
    (hab : TypeRecord.le a b) (hba : TypeRecord.le b a) : a = b := by
  obtain ⟨hrank, hbase, horder⟩ :=
    (TypeRecord.tied_iff_keys a b).mp (Proofs.tied_iff.mpr ⟨hab, hba⟩)
  rcases gathered_record_cases ha with ⟨e, he, rfl⟩ | ⟨t, ht, shape, hshape, rfl⟩
  · rcases gathered_record_cases hb with ⟨e', he', rfl⟩ | ⟨t', -, shape', hshape', rfl⟩
    · have heq : e = e' := List.inj_on_of_nodup_map hnames.enums he he' hbase
      rw [heq]
    · rw [rank_enumRecord, rank_tableRecord s _ t' hshape'] at hrank
      omega
  · rcases gathered_record_cases hb with ⟨e', -, rfl⟩ | ⟨t', ht', shape', hshape', rfl⟩
    · rw [rank_enumRecord, rank_tableRecord s _ t hshape] at hrank
      omega
    · have heq : t = t' := List.inj_on_of_nodup_map hnames.tables ht ht' hbase
      rw [heq, eq_of_shapeOrder_eq hshape hshape' horder]

/-- Permuted declarations give the same model. Sorting forgets the order of
the records, since by `eq_of_tied` only equal ones tie. -/
theorem gathered_model_perm {s : Settings} {m : TypeMap} {ds ds' : List Declaration}
    (hperm : ds.Perm ds') (hnames : NamesApart ds) :
    (gathered s { typeMap := m } ds).model = (gathered s { typeMap := m } ds').model := by
  have hrecords : TypeRecord.sort (gathered s { typeMap := m } ds).records =
      TypeRecord.sort (gathered s { typeMap := m } ds').records := by
    apply Proofs.mergeSort_eq_of_perm TypeRecord.le_trans TypeRecord.le_total
      (gathered_records_perm hperm hnames)
    intro a ha b hb hab hba
    exact eq_of_tied hnames ha hb hab hba
  have hmap : (gathered s { typeMap := m } ds).typeMap.snapshot =
      (gathered s { typeMap := m } ds').typeMap.snapshot :=
    TypeMap.snapshot_eq_of_fieldsAt (fieldsAt_registerAll_perm hperm hnames)
  unfold State.model
  rw [hrecords, hmap]

/-- **The order of declarations does not show.** Take declarations of
known kinds whose names are kept apart, and any permutation of them. Both
build, from any table of types and with any settings, and to the same
model. Hence every artifact is the same text, save the listing of the
declarations themselves. -/
theorem run_eq_of_perm (s : Settings) (m : TypeMap) {ds ds' : List Declaration}
    (hperm : ds.Perm ds') (hknown : ∀ d ∈ ds, isKnown d) (hnames : NamesApart ds) :
    ∃ model, (run s { typeMap := m } ds).2 = .ok model ∧
      (run s { typeMap := m } ds').2 = .ok model ∧
      ∀ (source : String) (kind : ArtifactKind), kind ≠ .declarations →
        Compiled.render ⟨source, ds, model⟩ kind = Compiled.render ⟨source, ds', model⟩ kind := by
  have hknown' : ∀ d ∈ ds', isKnown d := fun d hd => hknown d (hperm.mem_iff.mpr hd)
  refine ⟨(gathered s { typeMap := m } ds).model, ?_, ?_, ?_⟩
  · rw [run_eq_gathered s _ ds hknown]
  · rw [run_eq_gathered s _ ds' hknown', gathered_model_perm hperm hnames]
  · intro source kind hkind
    cases kind with
    | declarations => exact absurd rfl hkind
    | _ => rfl

/-- Two tables, one of them with a column of an enum type, and two enums,
of which one stands after the table that uses it. -/
def moodSchema : List Declaration :=
  [.table { name := "person"
            columns := [{ name := "id", dataType := .named "int", primary := true },
                        { name := "moods", dataType := .array "array" (.named "mood") }] },
   .enum { name := "mood", values := ["sad", "glad"] },
   .unsupported "create index" {},
   .enum { name := "Color", values := ["red"] },
   .table { name := "pet", columns := [{ name := "color", dataType := .named "color" }] }]

/-- The same schema from its end to its start. -/
theorem run_eq_of_perm_reverse :
    moodSchema.Perm moodSchema.reverse ∧ (∀ d ∈ moodSchema, isKnown d) ∧ NamesApart moodSchema ∧
      ∃ model, (run { source := [] } { typeMap := .builtin } moodSchema).2 = .ok model ∧
        (run { source := [] } { typeMap := .builtin } moodSchema.reverse).2 = .ok model := by
  have hperm : moodSchema.Perm moodSchema.reverse := (List.reverse_perm _).symm
  have hknown : ∀ d ∈ moodSchema, isKnown d := by decide
  have hnames : NamesApart moodSchema :=
    ⟨by decide +kernel, by decide +kernel, by decide +kernel⟩
  refine ⟨hperm, hknown, hnames, ?_⟩
  obtain ⟨model, hrun, hrun', -⟩ :=
    run_eq_of_perm { source := [] } .builtin hperm hknown hnames
  exact ⟨model, hrun, hrun'⟩

end SchemaTypes.Build
