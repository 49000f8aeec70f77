import SchemaTypes.Model.Build
import SchemaTypes.Proofs.TypeMap.Registration

/-!
# `SchemaTypes.Proofs.Model.Gathering`: what a build gathers

`Build.run` goes through its declarations twice with a state that grows.
`gathered` names the state that it ends in by the declarations alone: the
records it started from, one record for each enum, and two records for
each table, made with the table of types in which all enums are
registered already. `run_eq_gathered` shows that this is what a run
comes to when it meets no declaration of an unknown kind, and
`exists_run_eq_ok_iff` that no other run ends well. `made` gives the
records of one declaration, and `gathered_records_perm_made` says that a
build has those of every declaration and no others.

Everything said of models elsewhere goes through this equation, so no
other proof opens the two passes.
-/

set_option autoImplicit false

namespace SchemaTypes.Build

/-- The enums among declarations, in their order. -/
def enums (declarations : List Declaration) : List EnumType :=
  declarations.filterMap fun
    | .enum e => some e
    | _ => none

/-- The tables among declarations, in their order. -/
def tables (declarations : List Declaration) : List Table :=
  declarations.filterMap fun
    | .table t => some t
    | _ => none

/-- Whether a declaration is of a kind that the library knows: a table, an
enum or an unsupported statement. -/
def isKnown : Declaration → Bool
  | .foreign _ => false
  | _ => true

/-- The records of the two variants of a table. -/
def variants (s : Settings) (m : TypeMap) (t : Table) : List TypeRecord :=
  [tableRecord s m t .read, tableRecord s m t .insert]

/-- The records made of one declaration: one for an enum, two for a table
and none for anything else. -/
def made (s : Settings) (m : TypeMap) : Declaration → List TypeRecord
  | .enum e => [enumRecord s e]
  | .table t => variants s m t
  | _ => []

/-- The state after declarations of known kinds. -/
def gathered (s : Settings) (state : State) (declarations : List Declaration) : State where
  records := state.records ++ (enums declarations).map (enumRecord s) ++
    (tables declarations).flatMap (variants s (state.typeMap.registerAll (enums declarations)))
  typeMap := state.typeMap.registerAll (enums declarations)

/-- The `enums` among declarations are those that are declared. -/
theorem mem_enums {e : EnumType} {declarations : List Declaration} :
    e ∈ enums declarations ↔ Declaration.enum e ∈ declarations := by
  unfold enums
  rw [List.mem_filterMap]
  constructor
  · rintro ⟨d, hd, he⟩
    cases d with
    | enum e' =>
      obtain rfl : e' = e := Option.some.inj he
      exact hd
    | _ => cases he
  · intro h
    exact ⟨_, h, rfl⟩

/-- The `tables` among declarations are those that are declared. -/
theorem mem_tables {t : Table} {declarations : List Declaration} :
    t ∈ tables declarations ↔ Declaration.table t ∈ declarations := by
  unfold tables
  rw [List.mem_filterMap]
  constructor
  · rintro ⟨d, hd, ht⟩
    cases d with
    | table t' =>
      obtain rfl : t' = t := Option.some.inj ht
      exact hd
    | _ => cases ht
  · intro h
    exact ⟨_, h, rfl⟩

/-- Declarations in another order have the same `enums` in another order. -/
theorem enums_perm {ds ds' : List Declaration} (h : ds.Perm ds') : (enums ds).Perm (enums ds') :=
  h.filterMap _

/-- Declarations in another order have the same `tables` in another
order. -/
theorem tables_perm {ds ds' : List Declaration} (h : ds.Perm ds') :
    (tables ds).Perm (tables ds') :=
  h.filterMap _

/-- The `enums` of two lists of declarations come one after the other. -/
theorem enums_append (ds ds' : List Declaration) : enums (ds ++ ds') = enums ds ++ enums ds' :=
  List.filterMap_append

/-- The `tables` of two lists of declarations come one after the other. -/
theorem tables_append (ds ds' : List Declaration) : tables (ds ++ ds') = tables ds ++ tables ds' :=
  List.filterMap_append

/-- Records of enums are in the first of the two groups that
`TypeRecord.rank` tells apart. -/
@[simp] theorem rank_enumRecord (s : Settings) (e : EnumType) : (enumRecord s e).rank = 1 :=
  rfl

/-- Records of tables are in the second group of `TypeRecord.rank`, for
reading and for insertion alike. -/
theorem rank_tableRecord (s : Settings) (m : TypeMap) (t : Table) {shape : Shape}
    (h : shape ≠ .enum) : (tableRecord s m t shape).rank = 2 := by
  show (if shape = .enum then 1 else 2) = 2
  rw [if_neg h]

/-- The `variants` of a table read the table of types only by resolving the
types of its columns. So a change to the table of types matters to a table
only through the types that its columns have. -/
theorem variants_eq_of_resolve (s : Settings) {m₁ m₂ : TypeMap} {t : Table}
    (h : ∀ column ∈ t.columns,
      m₁.resolve column.dataType.base = m₂.resolve column.dataType.base) :
    variants s m₁ t = variants s m₂ t := by
  have hprops : ∀ shape, t.columns.map (property s m₁ t.primaryKeys shape) =
      t.columns.map (property s m₂ t.primaryKeys shape) := by
    intro shape
    refine List.map_congr_left fun column hcolumn => ?_
    unfold property
    rw [h column hcolumn]
  unfold variants tableRecord
  rw [hprops, hprops]

/-- The two records of a table, its `variants`, are those for reading and
for insertion. -/
theorem mem_variants {s : Settings} {m : TypeMap} {t : Table} {r : TypeRecord} :
    r ∈ variants s m t ↔ ∃ shape, shape ≠ Shape.enum ∧ r = tableRecord s m t shape := by
  unfold variants
  rw [List.mem_cons, List.mem_singleton]
  constructor
  · rintro (rfl | rfl)
    · exact ⟨.read, nofun, rfl⟩
    · exact ⟨.insert, nofun, rfl⟩
  · rintro ⟨shape, hshape, rfl⟩
    cases shape with
    | read => exact Or.inl rfl
    | insert => exact Or.inr rfl
    | enum => exact absurd rfl hshape

/-- A `property` may be left out if its column may be null and is no part of
the key, and on insertion also if the column has a default. -/
theorem optional_property (s : Settings) (m : TypeMap) (keys : List String) (shape : Shape)
    (column : Column) :
    (property s m keys shape column).optional =
      (!(column.notNull || (column.primary || keys.contains column.name)) ||
        (shape == .insert && column.hasDefault)) := by
  show (!((column.notNull || (column.primary || keys.contains column.name)) &&
    !(shape == .insert && column.hasDefault))) = _
  rw [Bool.not_and, Bool.not_not]

/-- The first pass, by `addEnum`, records the enums and registers them. -/
theorem foldl_addEnum (s : Settings) (declarations : List Declaration) (state : State) :
    declarations.foldl (addEnum s) state =
      { records := state.records ++ (enums declarations).map (enumRecord s)
        typeMap := state.typeMap.registerAll (enums declarations) } := by
  induction declarations generalizing state with
  | nil => simp [enums, TypeMap.registerAll]
  | cons d declarations ih =>
    rw [List.foldl_cons, ih]
    cases d with
    | enum e =>
      -- The record goes to the end of the records so far, in front of those to come.
      show State.mk ((state.records ++ [enumRecord s e]) ++ _) _ = State.mk _ _
      rw [List.append_assoc]
      rfl
    | _ => rfl

/-- The second pass, `addTables`, records both variants of each table. It
leaves the table of types as it is. -/
theorem addTables_eq (s : Settings) (declarations : List Declaration)
    (h : ∀ d ∈ declarations, isKnown d) (state : State) :
    addTables s state declarations =
      ({ state with
          records := state.records ++ (tables declarations).flatMap (variants s state.typeMap) },
        none) := by
  induction declarations generalizing state with
  | nil => simp [addTables, tables]
  | cons d declarations ih =>
    have hrest : ∀ d' ∈ declarations, isKnown d' := fun d' hd' => h d' (List.mem_cons_of_mem _ hd')
    cases d with
    | table t =>
      rw [addTables, ih hrest]
      show (State.mk ((state.records ++ variants s state.typeMap t) ++ _) _, none) = _
      rw [List.append_assoc]
      rfl
    | enum | unsupported =>
      -- The last equation of `addTables` asks that the head is none of the other kinds.
      rw [addTables, ih hrest]
      · rfl
      all_goals nofun
    | foreign kind => exact absurd (h _ List.mem_cons_self) Bool.false_ne_true

/-- A run over declarations of known kinds succeeds, and it ends in the
state that they describe. The two passes are `foldl_addEnum` and
`addTables_eq`; whatever is shown about builds is shown about `gathered`. -/
theorem run_eq_gathered (s : Settings) (state : State) (declarations : List Declaration)
    (h : ∀ d ∈ declarations, isKnown d) :
    run s state declarations =
      (gathered s state declarations, .ok (gathered s state declarations).model) := by
  unfold run
  rw [foldl_addEnum, addTables_eq s declarations h]
  rfl

/-- The second pass, `addTables`, reaches the end only if it meets no
declaration of an unknown kind, at which it would stop. -/
theorem isKnown_of_addTables (s : Settings) (state : State) (ds : List Declaration)
    (h : (addTables s state ds).2 = none) : ∀ d ∈ ds, isKnown d := by
  induction ds generalizing state with
  | nil => exact nofun
  | cons d ds ih =>
    cases d with
    | foreign kind => nomatch h
    | table t => exact List.forall_mem_cons.mpr ⟨rfl, ih _ h⟩
    | enum e => exact List.forall_mem_cons.mpr ⟨rfl, ih _ h⟩
    | unsupported kind extent => exact List.forall_mem_cons.mpr ⟨rfl, ih _ h⟩

/-- A build ends well exactly if it meets no declaration of an unknown kind.
The first pass cannot fail, so the second decides (`run_eq_gathered`,
`isKnown_of_addTables`). -/
theorem exists_run_eq_ok_iff (s : Settings) (state : State) (ds : List Declaration) :
    (∃ final model, run s state ds = (final, .ok model)) ↔ ∀ d ∈ ds, isKnown d := by
  constructor
  · rintro ⟨final, model, hrun⟩
    refine isKnown_of_addTables s (ds.foldl (addEnum s) state) ds ?_
    unfold run at hrun
    dsimp only at hrun
    split at hrun
    · cases hrun
    · assumption
  · intro hknown
    exact ⟨_, _, run_eq_gathered s state ds hknown⟩

/-- Up to their order, the records of a build are those it started from and
those that are `made` of each declaration. -/
theorem gathered_records_perm_made (s : Settings) (state : State)
    (declarations : List Declaration) :
    (gathered s state declarations).records.Perm
      (state.records ++ declarations.flatMap (made s (gathered s state declarations).typeMap)) := by
  have hmade : ∀ m : TypeMap,
      ((enums declarations).map (enumRecord s) ++
        (tables declarations).flatMap (variants s m)).Perm (declarations.flatMap (made s m)) := by
    intro m
    induction declarations with
    | nil => exact List.Perm.nil
    | cons d declarations ih =>
      rw [List.flatMap_cons]
      cases d with
      | enum e => exact ih.cons _
      | table t =>
        -- The variants stand behind all enums and have to come in front of them.
        show (_ ++ (variants s m t ++ _) : List TypeRecord).Perm (variants s m t ++ _)
        exact (List.perm_append_comm_assoc _ _ _).trans (ih.append_left _)
      | unsupported kind extent => exact ih
      | foreign kind => exact ih
  show (state.records ++ _ ++ _ : List TypeRecord).Perm _
  rw [List.append_assoc]
  exact (hmade _).append_left _

/-- The model has the records that were collected, as `TypeRecord.sort` adds
and drops none. -/
theorem mem_model_records {state : State} {r : TypeRecord} :
    r ∈ state.model.records ↔ r ∈ state.records :=
  List.mem_mergeSort

/-- Both variants of a declared table are among the records of the model,
with the types resolved after all enums are registered (`gathered`). -/
theorem tableRecord_mem_model {s : Settings} {state : State} {declarations : List Declaration}
    {t : Table} (ht : Declaration.table t ∈ declarations) {shape : Shape}
    (hshape : shape ≠ .enum) :
    tableRecord s (gathered s state declarations).typeMap t shape ∈
      (gathered s state declarations).model.records := by
  rw [mem_model_records]
  refine List.mem_append_right _ (List.mem_flatMap.mpr ⟨t, mem_tables.mpr ht, ?_⟩)
  exact mem_variants.mpr ⟨shape, hshape, rfl⟩

/-- The `enumRecord` of a declared enum is among the records of the model,
also if another enum takes its place in the table of types. -/
theorem enumRecord_mem_model {s : Settings} {state : State} {declarations : List Declaration}
    {e : EnumType} (he : Declaration.enum e ∈ declarations) :
    enumRecord s e ∈ (gathered s state declarations).model.records := by
  rw [mem_model_records]
  refine List.mem_append_left _ (List.mem_append_right _ ?_)
  exact List.mem_map_of_mem (mem_enums.mpr he)

end SchemaTypes.Build
