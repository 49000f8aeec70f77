import Mathlib.Data.List.Flatten
import SchemaTypes.Proofs.Model.Gathering

/-!
# `SchemaTypes.Proofs.Model.Additions`: what more declarations change

The types of a schema meet in two places. Tables read the table of types
that enums write to, and all records are sorted together. Someone who adds
a table to a schema expects neither to show in the types that were there.

Through the table of types one declaration acts on another only if it is
an enum and the other a table with a column of its name, or if it takes
the name that stands for unknown types. `Unasked` rules both out, and then
`Unasked.variants_eq` gives the same records with the enums and without.
Sorting is stable, so it keeps the records that were there in their order
also where names are equal. Two results follow:

* `insertion_leaves_rest`: a declaration that is put anywhere into a
  schema adds its own records and its own name in the table of types, and
  leaves everything else as it was.
* `run_run_eq_run_append`: a build that is given a schema in two parts
  ends with the same model as a build that is given all of it. The records
  are gathered in another order then, because the enums of the second part
  stand behind the tables of the first.
-/

set_option autoImplicit false

namespace SchemaTypes.Build

open TypeMap (canonicalName)

/-- No column of the tables asks for one of the enums. None of them has the
name of a column's innermost type, or the name for unknown types. -/
structure Unasked (added : List EnumType) (found : List Table) : Prop where
  default : ∀ e ∈ added, canonicalName e.name ≠ TypeMap.defaultKey
  column : ∀ e ∈ added, ∀ t ∈ found, ∀ column ∈ t.columns,
    canonicalName e.name ≠ canonicalName column.dataType.base

section Unasked

variable {added : List EnumType} {found : List Table} (h : Unasked added found) (s : Settings)
  (m : TypeMap) (before after : List EnumType)

include h

/-- Tables that do not ask for the added enums have the same records without
them, wherever among the other enums they are registered. The types of their
columns are resolved by names under which nothing was registered
(`variants_eq_of_resolve`). -/
theorem Unasked.variants_eq {t : Table} (ht : t ∈ found) :
    variants s (m.registerAll (before ++ (added ++ after))) t =
      variants s (m.registerAll (before ++ after)) t := by
  refine variants_eq_of_resolve s fun column hcolumn => ?_
  apply TypeMap.resolve_eq_of_fieldsAt
  · exact TypeMap.fieldsAt_registerAll_append
      (fun e he => h.column e he t ht column hcolumn) m before after
  · exact TypeMap.fieldsAt_registerAll_append h.default m before after

/-- The same for the records of all tables in a row, by
`Unasked.variants_eq` for each. -/
theorem Unasked.flatMap_variants_eq :
    found.flatMap (variants s (m.registerAll (before ++ (added ++ after)))) =
      found.flatMap (variants s (m.registerAll (before ++ after))) :=
  List.flatMap_congr fun _ ht => h.variants_eq s m before after ht

end Unasked

/-! ### One declaration more -/

/-- The names that a declaration sets in the table of types: one for an
enum, and none for anything else. -/
def registered (d : Declaration) : List String :=
  (enums [d]).map fun e => canonicalName e.name

section Insertion

variable {before after : List Declaration} {d : Declaration}
  (h : Unasked (enums [d]) (tables (before ++ after))) (s : Settings) (state : State)

/-- The enums of declarations with one more among them, in the form that
`Unasked.flatMap_variants_eq` asks for. -/
theorem enums_insert (before after : List Declaration) (d : Declaration) :
    enums (before ++ d :: after) = enums before ++ (enums [d] ++ enums after) := by
  rw [← List.singleton_append, enums_append, enums_append]

include h

/-- The records that were `gathered` without the declaration stay, in their
order. The groups of records are compared one by one: those of before, of
enums, and of tables. -/
theorem gathered_records_sublist :
    (gathered s state (before ++ after)).records.Sublist
      (gathered s state (before ++ d :: after)).records := by
  have hdeclarations : (before ++ after).Sublist (before ++ d :: after) :=
    (List.sublist_cons_self d after).append_left before
  show (state.records ++ _ ++ _ : List TypeRecord).Sublist (state.records ++ _ ++ _)
  rw [enums_append before, ← h.flatMap_variants_eq, ← enums_insert, ← enums_append]
  refine List.Sublist.append (List.Sublist.append (List.Sublist.refl _) ?_) ?_
  · exact (hdeclarations.filterMap _).map _
  · exact List.Sublist.flatMap (hdeclarations.filterMap _) _

/-- The records that were not there are those made of the declaration. Up to
order, records are counted declaration by declaration, as
`gathered_records_perm_made` says. -/
theorem gathered_records_perm_insert :
    (gathered s state (before ++ d :: after)).records.Perm
      ((gathered s state (before ++ after)).records ++
        made s (gathered s state (before ++ d :: after)).typeMap d) := by
  let types := (gathered s state (before ++ d :: after)).typeMap
  -- Every other declaration makes the records that it made before.
  have hmade : ∀ x ∈ before ++ after,
      made s (gathered s state (before ++ after)).typeMap x = made s types x := by
    intro x hx
    show made s (state.typeMap.registerAll (enums (before ++ after))) x =
      made s (state.typeMap.registerAll (enums (before ++ d :: after))) x
    rw [enums_append, enums_insert]
    cases x with
    | table t => exact (h.variants_eq s state.typeMap _ _ (mem_tables.mpr hx)).symm
    | _ => rfl
  have hrest := gathered_records_perm_made s state (before ++ after)
  rw [List.flatMap_congr hmade] at hrest
  calc
    List.Perm (gathered s state (before ++ d :: after)).records
        (state.records ++ (before ++ d :: after).flatMap (made s types)) :=
      gathered_records_perm_made s state (before ++ d :: after)
    List.Perm _ (state.records ++ (made s types d ++ (before ++ after).flatMap (made s types))) :=
      (List.perm_middle.flatMap_right _).append_left _
    List.Perm _
        ((state.records ++ (before ++ after).flatMap (made s types)) ++ made s types d) := by
      rw [List.append_assoc]
      exact List.perm_append_comm.append_left _
    List.Perm _ ((gathered s state (before ++ after)).records ++ made s types d) :=
      hrest.symm.append_right _

omit h in
/-- Under the names that the declaration does not set, both tables of types
are listed alike. The listing is sorted, so this needs
`TypeMap.filter_snapshot_eq` and not only equal look-ups. -/
theorem filter_typeMap_insert :
    ((gathered s state (before ++ d :: after)).model.typeMap.filter fun entry =>
        entry.1 ∉ registered d) =
      (gathered s state (before ++ after)).model.typeMap.filter fun entry =>
        entry.1 ∉ registered d := by
  refine TypeMap.filter_snapshot_eq (p := fun key => key ∉ registered d) ?_
  intro key hkey
  have hother : ∀ e ∈ enums [d], canonicalName e.name ≠ key := by
    intro e he heq
    exact of_decide_eq_true hkey (List.mem_map.mpr ⟨e, he, heq⟩)
  show Json.fieldsAt key (state.typeMap.registerAll (enums (before ++ d :: after))).entries =
    Json.fieldsAt key (state.typeMap.registerAll (enums (before ++ after))).entries
  rw [enums_insert, enums_append]
  exact TypeMap.fieldsAt_registerAll_append hother state.typeMap _ _

end Insertion

/-- **A declaration that is added to a schema disturbs no other type.** Put
a declaration of a known kind anywhere among others, and if it is an enum,
let no column ask for it. Both schemas build. The records of the smaller
one are those of the larger one, in the same order, without the records
made of the declaration: one for an enum, two for a table and none for
anything else. And the tables of types agree under every name but that of
the added enum. -/
theorem insertion_leaves_rest (s : Settings) (state : State) (before after : List Declaration)
    (d : Declaration) (hknown : ∀ x ∈ before ++ d :: after, isKnown x)
    (h : Unasked (enums [d]) (tables (before ++ after))) :
    ∃ final model final' model',
      run s state (before ++ after) = (final, .ok model) ∧
      run s state (before ++ d :: after) = (final', .ok model') ∧
      model.records.Sublist model'.records ∧
      model'.records.Perm (model.records ++ made s final'.typeMap d) ∧
      (model'.typeMap.filter fun entry => entry.1 ∉ registered d) =
        model.typeMap.filter fun entry => entry.1 ∉ registered d := by
  have hrest : ∀ x ∈ before ++ after, isKnown x := by
    intro x hx
    exact hknown x (((List.sublist_cons_self d after).append_left before).subset hx)
  refine ⟨gathered s state (before ++ after), (gathered s state (before ++ after)).model,
    gathered s state (before ++ d :: after), (gathered s state (before ++ d :: after)).model,
    run_eq_gathered s state _ hrest, run_eq_gathered s state _ hknown, ?_, ?_, ?_⟩
  · exact Proofs.mergeSort_sublist TypeRecord.le_trans TypeRecord.le_total
      (gathered_records_sublist h s state)
  · exact (List.mergeSort_perm _ _).trans ((gathered_records_perm_insert h s state).trans
      ((List.mergeSort_perm _ _).symm.append_right _))
  · exact filter_typeMap_insert s state

/-- A table with a column of an enum type. -/
def moodTable : Declaration :=
  .table { name := "person"
           columns := [{ name := "moods", dataType := .array "array" (.named "Mood_Kind") }] }

/-- The enum that the column asks for. -/
def moodEnum : Declaration :=
  .enum { name := "mood_kind", values := ["sad", "glad"] }

/-- An enum of another name, for which the same type name is generated. -/
def moodTwin : Declaration :=
  .enum { name := "moodKind", values := ["calm"] }

/-- The enum that is added ties with the one that was there, and comes to
stand before it. -/
theorem insertion_leaves_rest_twin :
    (∀ x ∈ [moodTable, moodTwin, moodEnum], isKnown x) ∧
    Unasked (enums [moodTwin]) (tables [moodTable, moodEnum]) ∧
    ∃ final model final' model',
      run { source := [] } { typeMap := .builtin } [moodTable, moodEnum] = (final, .ok model) ∧
      run { source := [] } { typeMap := .builtin } [moodTable, moodTwin, moodEnum] =
        (final', .ok model') ∧
      model.records.Sublist model'.records ∧
      model'.records.length = model.records.length + 1 ∧
      (model'.typeMap.filter fun entry => entry.1 ∉ ["moodkind"]) =
        model.typeMap.filter fun entry => entry.1 ∉ ["moodkind"] := by
  have hknown : ∀ x ∈ [moodTable, moodTwin, moodEnum], isKnown x := by decide
  have hunasked : Unasked (enums [moodTwin]) (tables [moodTable, moodEnum]) :=
    ⟨by decide +kernel, by decide +kernel⟩
  have hname : registered moodTwin = ["moodkind"] := by decide +kernel
  refine ⟨hknown, hunasked, ?_⟩
  obtain ⟨final, model, final', model', hrun, hrun', hsublist, hperm, htypes⟩ :=
    insertion_leaves_rest { source := [] } { typeMap := .builtin } [moodTable] [moodEnum] moodTwin
      hknown hunasked
  rw [hname] at htypes
  refine ⟨final, model, final', model', hrun, hrun', hsublist, ?_, htypes⟩
  rw [hperm.length_eq, List.length_append]
  rfl

/-! ### A schema in two parts -/

/-- All records of tables are in the second group, by `rank_tableRecord` for
both variants. -/
theorem rank_of_mem_variants {s : Settings} {m : TypeMap} {found : List Table} {r : TypeRecord}
    (h : r ∈ found.flatMap (variants s m)) : r.rank = 2 := by
  obtain ⟨t, -, hr⟩ := List.mem_flatMap.mp h
  obtain ⟨shape, hshape, rfl⟩ := mem_variants.mp hr
  exact rank_tableRecord s m t hshape

section Parts

variable (s : Settings) (state : State) {first second : List Declaration}

/-- A second build goes on registering enums where the first one stopped, so
`registerAll` has registered all of them in the end. -/
theorem gathered_gathered_typeMap : (gathered s (gathered s state first) second).typeMap =
    (gathered s state (first ++ second)).typeMap := by
  show (state.typeMap.registerAll (enums first)).registerAll (enums second) =
    state.typeMap.registerAll (enums (first ++ second))
  rw [enums_append, TypeMap.registerAll_append]

/-- The records of both parts, as a build of all of it gathers them. The
tables of the first part are as they would be without the second
(`Unasked.flatMap_variants_eq`). -/
theorem gathered_append_records (h : Unasked (enums second) (tables first)) :
    (gathered s state (first ++ second)).records =
      state.records ++ ((enums first).map (enumRecord s) ++ (enums second).map (enumRecord s)) ++
        ((tables first).flatMap (variants s (gathered s state first).typeMap) ++
          (tables second).flatMap (variants s (gathered s state (first ++ second)).typeMap)) := by
  have hfirst : (tables first).flatMap (variants s (gathered s state (first ++ second)).typeMap) =
      (tables first).flatMap (variants s (gathered s state first).typeMap) := by
    have hadded := h.flatMap_variants_eq s state.typeMap (enums first) []
    rw [List.append_nil, List.append_nil, ← enums_append] at hadded
    exact hadded
  rw [← hfirst, ← List.flatMap_append, ← tables_append, ← List.map_append, ← enums_append]
  rfl

/-- Where no table of the first part asks for an enum of the second, both
ways to gather the records end in the same order. The tables of the first
part and the enums of the second have changed places, and no enum ties with
a table, so `Proofs.mergeSort_swap` applies. -/
theorem sort_gathered_gathered_records (h : Unasked (enums second) (tables first)) :
    TypeRecord.sort (gathered s (gathered s state first) second).records =
      TypeRecord.sort (gathered s state (first ++ second)).records := by
  have hparts : (gathered s (gathered s state first) second).records =
      state.records ++ (enums first).map (enumRecord s) ++
        ((tables first).flatMap (variants s (gathered s state first).typeMap) ++
          (enums second).map (enumRecord s)) ++
        (tables second).flatMap (variants s (gathered s state (first ++ second)).typeMap) := by
    rw [← gathered_gathered_typeMap, ← List.append_assoc (_ ++ _)]
    rfl
  -- An enum and a table differ in the first key of the comparison.
  have huntied : ∀ x ∈ (tables first).flatMap (variants s (gathered s state first).typeMap),
      ∀ y ∈ (enums second).map (enumRecord s), Proofs.tied TypeRecord.le x y = false := by
    intro x hx y hy
    obtain ⟨e, -, rfl⟩ := List.mem_map.mp hy
    rw [Bool.eq_false_iff, ne_eq, TypeRecord.tied_iff_keys, rank_of_mem_variants hx,
      rank_enumRecord]
    omega
  unfold TypeRecord.sort
  rw [hparts, Proofs.mergeSort_swap TypeRecord.le_trans TypeRecord.le_total huntied,
    gathered_append_records s state h]
  simp only [List.append_assoc]

end Parts

/-- **A schema may be built in two parts.** Take two lists of declarations
of known kinds, where no table of the first asks for an enum of the
second. Build the first and then, in the state it leaves, the second. Both
builds succeed, and the second gives the same records, types and table map
as one build of the two lists together, also where type names of one part
occur in the other. -/
theorem run_run_eq_run_append (s : Settings) (state : State) {first second : List Declaration}
    (hfirst : ∀ d ∈ first, isKnown d) (hsecond : ∀ d ∈ second, isKnown d)
    (h : Unasked (enums second) (tables first)) :
    ∃ between started model, run s state first = (between, .ok started) ∧
      (run s between second).2 = .ok model ∧ (run s state (first ++ second)).2 = .ok model := by
  refine ⟨gathered s state first, (gathered s state first).model,
    (gathered s state (first ++ second)).model, run_eq_gathered s state first hfirst, ?_, ?_⟩
  · rw [run_eq_gathered s _ second hsecond]
    unfold State.model
    rw [sort_gathered_gathered_records s state h, gathered_gathered_typeMap]
  · rw [run_eq_gathered s state (first ++ second)]
    exact List.forall_mem_append.mpr ⟨hfirst, hsecond⟩

/-- A table with the type names of `moodTable`. -/
def moodTableTwin : Declaration :=
  .table { name := "Person", columns := [{ name := "kind", dataType := .named "moodKind" }] }

/-- Every type name of the second part occurs in the first. -/
theorem run_run_eq_run_append_twins :
    (∀ d ∈ [moodTable, moodEnum], isKnown d) ∧ (∀ d ∈ [moodTableTwin, moodTwin], isKnown d) ∧
    Unasked (enums [moodTableTwin, moodTwin]) (tables [moodTable, moodEnum]) ∧
    ∃ between started model,
      run { source := [] } { typeMap := .builtin } [moodTable, moodEnum] =
        (between, .ok started) ∧
      (run { source := [] } between [moodTableTwin, moodTwin]).2 = .ok model ∧
      (run { source := [] } { typeMap := .builtin }
        [moodTable, moodEnum, moodTableTwin, moodTwin]).2 = .ok model := by
  have hfirst : ∀ d ∈ [moodTable, moodEnum], isKnown d := by decide
  have hsecond : ∀ d ∈ [moodTableTwin, moodTwin], isKnown d := by decide
  have hunasked : Unasked (enums [moodTableTwin, moodTwin]) (tables [moodTable, moodEnum]) :=
    ⟨by decide +kernel, by decide +kernel⟩
  exact ⟨hfirst, hsecond, hunasked,
    run_run_eq_run_append { source := [] } { typeMap := .builtin } hfirst hsecond hunasked⟩

end SchemaTypes.Build
