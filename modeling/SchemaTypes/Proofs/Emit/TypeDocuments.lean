import Mathlib.Data.List.Nodup
import SchemaTypes.Emit.Documents
import SchemaTypes.Proofs.Emit.Blocks
import SchemaTypes.Proofs.Json.Order

/-!
# `SchemaTypes.Proofs.Emit.TypeDocuments`: the list of types, its short form and the index

Three documents tell what the types of a model are. The list sorts the
types by name and then puts the whole array in order; the short list cuts
each type down before that; the index collects the types under their
names and puts the whole object in order. `type_documents_agree` shows
that they say the same.

What makes them agree is that putting a document in order does nothing to
a type inside it but putting that type in order. An array of types that
are sorted by name stays as it is (`sorted_arr_of_named`), a look-up in an
object in order gives the value in order (`NamedOnce.lookup_sorted`), and
a list of texts in place of a list of properties is nested like the
latter, so that no field changes its place (`sorted_toShortJson`).
-/

set_option autoImplicit false

namespace SchemaTypes.Json

open Proofs

/-! ### Looking into a document in order -/

/-- An array of named objects that stand in the order of their names is put
in order item by item. Its items are sorted by name (`sortItems`), and they
stand so already. -/
theorem sorted_arr_of_named {α : Type} {write : α → Json} {name : α → String}
    (hname : ∀ a, recordName? (sorted (write a)) = some (name a)) {items : List α}
    (hitems : items.Pairwise fun a b => name a ≤ name b) :
    sorted (.arr (items.map write)) = .arr (items.map fun a => sorted (write a)) := by
  have hall : (items.map fun a => sorted (write a)).all
      (fun item => (recordName? item).isSome) = true := by
    rw [List.all_map, List.all_eq_true]
    intro a _
    show (recordName? (sorted (write a))).isSome = true
    rw [hname]
    rfl
  -- The items are compared by the names that they are already ordered by.
  have hpairwise : (items.map fun a => sorted (write a)).Pairwise
      (fun a b => nameLe a b = true) := by
    rw [List.pairwise_map]
    refine hitems.imp ?_
    intro a b hab
    unfold nameLe
    rw [hname, hname]
    exact decide_eq_true hab
  rw [sorted, sortedItems_eq_map, List.map_map]
  show Json.arr (sortItems (items.map fun a => sorted (write a))) = _
  rw [sortItems, if_pos hall, List.mergeSort_of_pairwise hpairwise]

/-- A list of texts keeps its order, as no text has a name to be sorted by
(`recordName?`). -/
theorem sorted_ofStrings (texts : List String) : sorted (ofStrings texts) = ofStrings texts := by
  have hitems : (texts.map Json.str).map sorted = texts.map Json.str := by
    rw [List.map_map]
    rfl
  rw [ofStrings, sorted, sortedItems_eq_map, hitems, sortItems]
  -- A text has no name, so only the empty list is sorted.
  cases texts with
  | nil => simp
  | cons text texts => rfl

end SchemaTypes.Json

namespace SchemaTypes.TypeDef

open Json

/-! ### Types as entries -/

/-- The field that holds the properties of a type, if it has any. -/
def propsField (write : Property → Json) (t : TypeDef) : List (String × Json) :=
  if t.props.isEmpty then [] else [("props", .arr (t.props.map write))]

/-- The fields of a type as it is written. -/
def writtenFields (write : Property → Json) (t : TypeDef) : List (String × Json) :=
  dropNulls t.headFields ++ t.propsField write

/-- A type is written as its `writtenFields`, whichever way its properties
are written in. -/
theorem toJsonWith_eq (write : Property → Json) (t : TypeDef) :
    t.toJsonWith write = .obj (t.writtenFields write) :=
  rfl

/-- None of the other fields of a type, its `headFields`, is called like
that of the properties. -/
theorem ne_props_of_mem_headFields {t : TypeDef} {field : String × Json}
    (h : field ∈ dropNulls t.headFields) : field.1 ≠ "props" := by
  have hnames : ∀ name ∈ t.headFields.map Prod.fst, name ≠ "props" := by
    show ∀ name ∈ ["name", "description", "kind", "primaryKey", "insertFor", "sqlTable",
      "sqlSchema"], name ≠ "props"
    decide
  exact hnames field.1 (List.mem_map_of_mem (mem_dropNulls.mp h).1)

/-- The fields of a type that are written, its `writtenFields`, have
different names. -/
theorem namedOnce_writtenFields (write : Property → Json) (t : TypeDef) :
    NamedOnce (t.writtenFields write) := by
  have hall : NamedOnce (t.headFields ++ [("props", .arr (t.props.map write))]) := by
    show ["name", "description", "kind", "primaryKey", "insertFor", "sqlTable", "sqlSchema",
      "props"].Nodup
    decide
  refine hall.sublist (List.Sublist.append List.filter_sublist ?_)
  unfold propsField
  split
  · exact List.nil_sublist _
  · exact List.Sublist.refl _

/-- The entry of a type has its name, by which `sorted` puts lists of types
in order. -/
theorem recordName?_sorted_toJsonWith (write : Property → Json) (t : TypeDef) :
    recordName? (t.toJsonWith write).sorted = some t.name := by
  rw [toJsonWith_eq]
  have hname : lookup (t.writtenFields write) "name" = some (.str t.name) := by
    show List.lookup "name" (("name", Json.str t.name) :: _) = _
    rw [List.lookup_cons_self]
  rw [(t.namedOnce_writtenFields write).recordName?_sorted, recordName?, hname]

/-- A field of a type as the short list has it: the properties are given by
name, in the order in which they are declared. -/
def shortField (t : TypeDef) (field : String × Json) : String × Json :=
  if field.1 = "props" then (field.1, ofStrings (t.props.map Property.name)) else field

/-- A property list of either form is nested, so its field has the same
place in both. The rank of a field, by which `fieldLe` compares, asks no
more of its value. -/
theorem fieldLe_shortField {t : TypeDef} {a b : String × Json}
    (ha : a.1 = "props" → a.2.isNested = true) (hb : b.1 = "props" → b.2.isNested = true) :
    Json.fieldLe a b = Json.fieldLe (t.shortField a) (t.shortField b) := by
  have hrank : ∀ {field : String × Json}, (field.1 = "props" → field.2.isNested = true) →
      fieldRank (t.shortField field) = fieldRank field ∧ (t.shortField field).1 = field.1 := by
    intro field hfield
    unfold shortField
    split
    next hprops =>
      refine ⟨?_, rfl⟩
      have hnested : (ofStrings (t.props.map Property.name)).isNested = true := rfl
      simp only [fieldRank, hfield hprops, hnested]
    next => exact ⟨rfl, rfl⟩
  unfold Json.fieldLe
  rw [(hrank ha).1, (hrank ha).2, (hrank hb).1, (hrank hb).2]

/-- Writing names in place of properties, by `shortField`, gives the fields
of the short entry, before they are put in order. -/
theorem map_shortField_sortedFields (t : TypeDef) :
    (sortedFields (t.writtenFields Property.toJson)).map t.shortField =
      sortedFields (t.writtenFields fun p => .str p.name) := by
  have hhead : ((dropNulls t.headFields).map fun field => (field.1, sorted field.2)).map
      t.shortField = (dropNulls t.headFields).map fun field => (field.1, sorted field.2) := by
    rw [List.map_map]
    refine List.map_congr_left ?_
    intro field hfield
    exact if_neg (ne_props_of_mem_headFields hfield)
  -- The names are texts, which are not put in order, so they stay as declared.
  have hprops : ((t.propsField Property.toJson).map fun field => (field.1, sorted field.2)).map
      t.shortField =
        (t.propsField fun p => .str p.name).map fun field => (field.1, sorted field.2) := by
    have htexts : sorted (.arr (t.props.map fun p => .str p.name)) =
        ofStrings (t.props.map Property.name) := by
      have heq : Json.arr (t.props.map fun p => .str p.name) =
          ofStrings (t.props.map Property.name) := by
        rw [ofStrings, List.map_map]
        rfl
      rw [heq, sorted_ofStrings]
    unfold propsField
    split
    · rfl
    · simp [shortField, htexts]
  rw [sortedFields_eq_map, sortedFields_eq_map, writtenFields, writtenFields, List.map_append,
    List.map_append, List.map_append, hhead, hprops]

/-- A type has a field for its properties among its `writtenFields` exactly
if it has properties, in either form. -/
theorem mem_writtenFields_props_iff {write : Property → Json} {t : TypeDef} :
    "props" ∈ (t.writtenFields write).map Prod.fst ↔ t.props ≠ [] := by
  rw [writtenFields, List.map_append, List.mem_append]
  constructor
  · rintro (hhead | hprops) hnone
    · obtain ⟨field, hfield, hname⟩ := List.mem_map.mp hhead
      exact ne_props_of_mem_headFields hfield hname
    · rw [propsField, hnone] at hprops
      cases hprops
  · intro hsome
    rw [propsField, if_neg (by simpa using hsome)]
    exact .inr (List.mem_singleton_self _)

/-- The properties are written as an array, which `isNested` accepts also if
it is sorted. -/
theorem isNested_of_mem_writtenFields {write : Property → Json} {t : TypeDef}
    {field : String × Json} (hfield : field ∈ t.writtenFields write) (hname : field.1 = "props") :
    (sorted field.2).isNested = true := by
  rcases List.mem_append.mp hfield with hhead | hprops
  · exact absurd hname (ne_props_of_mem_headFields hhead)
  · unfold propsField at hprops
    split at hprops
    · cases hprops
    · rw [List.mem_singleton.mp hprops]
      rfl

/-- The short entry of a type is its entry with names in place of
properties. By `fieldLe_shortField` the two are sorted alike. -/
theorem sorted_toShortJson (t : TypeDef) :
    ∃ fields, t.toJson.sorted = .obj fields ∧
      t.toShortJson.sorted = .obj (fields.map t.shortField) ∧
      ("props" ∈ fields.map Prod.fst ↔ t.props ≠ []) := by
  refine ⟨(sortedFields (t.writtenFields Property.toJson)).mergeSort Json.fieldLe, ?_, ?_, ?_⟩
  · rw [toJson, toJsonWith_eq, sorted]
  · have hnested : ∀ field ∈ sortedFields (t.writtenFields Property.toJson),
        field.1 = "props" → field.2.isNested = true := by
      intro field hfield hname
      rw [sortedFields_eq_map] at hfield
      obtain ⟨old, hold, rfl⟩ := List.mem_map.mp hfield
      exact isNested_of_mem_writtenFields hold hname
    have hle : ∀ a ∈ sortedFields (t.writtenFields Property.toJson),
        ∀ b ∈ sortedFields (t.writtenFields Property.toJson),
          Json.fieldLe a b = Json.fieldLe (t.shortField a) (t.shortField b) := by
      intro a ha b hb
      exact fieldLe_shortField (hnested a ha) (hnested b hb)
    -- Sorting commutes with the change of the one field, which keeps its place.
    rw [List.map_mergeSort hle, map_shortField_sortedFields, toShortJson, toJsonWith_eq, sorted]
  · have hperm := (List.mergeSort_perm (sortedFields (t.writtenFields Property.toJson))
      Json.fieldLe).map Prod.fst
    rw [hperm.mem_iff, sortedFields_eq_map, List.map_map]
    exact mem_writtenFields_props_iff

end SchemaTypes.TypeDef

namespace SchemaTypes.Emit

open Json

/-! ### The list of types -/

/-- The types of a model in the order of their names. -/
def typesByName (model : TypeModel) : List TypeDef :=
  (model.records.map TypeRecord.typeDef).mergeSort fun a b => a.name ≤ b.name

/-- The types of a model are taken by `typesByName` in the order of their
names. -/
theorem pairwise_typesByName (model : TypeModel) :
    (typesByName model).Pairwise fun a b => a.name ≤ b.name :=
  (List.pairwise_mergeSort (Proofs.byText_trans TypeDef.name) (Proofs.byText_total TypeDef.name)
    _).imp fun h => of_decide_eq_true h

/-- The list has one entry for each type, which is the type in order.
Sorting the whole array moves no entry, by `sorted_arr_of_named`. -/
theorem typeListPayload_eq (write : Property → Json) (model : TypeModel) :
    typeListPayload (TypeDef.toJsonWith write) model =
      .arr ((typesByName model).map fun t => (t.toJsonWith write).sorted) :=
  sorted_arr_of_named (TypeDef.recordName?_sorted_toJsonWith write) (pairwise_typesByName model)

/-! ### The index -/

/-- The fields of the entry of a type in the index. -/
def indexFields (t : TypeDef) : List (String × Json) :=
  (sortedFields [("name", .str t.name), ("interfaceName", .str t.name),
    ("schemaName", .str (schemaName t.name)), ("kind", .str t.kind.text),
    ("typeDef", t.toJson)]).mergeSort Json.fieldLe

/-- An entry of the index with its fields in order: `indexFields` lists
them. -/
theorem sorted_indexEntry (t : TypeDef) : (indexEntry t).sorted = .obj (indexFields t) := by
  rw [indexEntry, sorted, indexFields]

/-- The entry of a type in the index, its `indexFields`, holds the type as
the list has it, and the name of its constant. -/
theorem lookup_indexFields (t : TypeDef) :
    lookup (indexFields t) "typeDef" = some t.toJson.sorted ∧
      lookup (indexFields t) "schemaName" = some (.str (schemaName t.name)) := by
  have honce : NamedOnce [("name", Json.str t.name), ("interfaceName", .str t.name),
      ("schemaName", .str (schemaName t.name)), ("kind", .str t.kind.text),
      ("typeDef", t.toJson)] := by
    show ["name", "interfaceName", "schemaName", "kind", "typeDef"].Nodup
    decide
  unfold indexFields
  rw [honce.lookup_sorted, honce.lookup_sorted]
  exact ⟨rfl, rfl⟩

/-- With distinct names, the index has an entry for each of them, and a
look-up finds it (`NamedOnce.lookup_eq_some_iff`). -/
theorem exists_index {model : TypeModel} (h : (model.records.map TypeRecord.name).Nodup) :
    ∃ index, typeIndexPayload model = .obj index ∧
      (index.map Prod.fst).Perm (model.records.map TypeRecord.name) ∧
      ∀ r ∈ model.records, lookup index r.name = some (.obj (indexFields r.typeDef)) := by
  let entries := (TypeRecord.sort model.records).map fun r => (r.name, indexEntry r.typeDef)
  have hsort : (TypeRecord.sort model.records).Perm model.records := List.mergeSort_perm _ _
  have hnames : entries.map Prod.fst = (TypeRecord.sort model.records).map TypeRecord.name := by
    rw [List.map_map]
    rfl
  have honce : NamedOnce entries := by
    unfold NamedOnce
    rw [hnames]
    exact (hsort.map TypeRecord.name).nodup_iff.mpr h
  -- No entry takes the place of another, so setting them one by one keeps them all.
  have hset : setFields entries [] = entries := setFields_of_namedOnce honce
  refine ⟨(sortedFields entries).mergeSort Json.fieldLe, ?_, ?_, ?_⟩
  · show (Json.obj (setFields entries [])).sorted = _
    rw [hset, sorted]
  · have hkeys : (sortedFields entries).map Prod.fst = entries.map Prod.fst := by
      rw [sortedFields_eq_map, List.map_map]
      rfl
    refine ((List.mergeSort_perm _ _).map Prod.fst).trans ?_
    rw [hkeys, hnames]
    exact hsort.map TypeRecord.name
  · intro r hr
    have hmem : (r.name, indexEntry r.typeDef) ∈ entries :=
      List.mem_map.mpr ⟨r, hsort.mem_iff.mpr hr, rfl⟩
    have hfound : lookup entries r.name = some (indexEntry r.typeDef) :=
      honce.lookup_eq_some_iff.mpr hmem
    rw [honce.lookup_sorted, hfound, Option.map_some, sorted_indexEntry]

/-! ### The schemas -/

/-- The schema of a record. -/
def schemaBlock (r : TypeRecord) : String :=
  if r.shape = .enum then enumSchema r else objectSchema r

/-- A block of a module exports a constant: the declaration is the line
after the comment at its start. -/
def Exports (block constant : String) : Prop :=
  ∃ comment body,
    block = joinText ["/**", comment, " */", "export const " ++ constant ++ "=" ++ body]

/-- A comment of several lines is one part of the block, and what follows
the first line of the declaration belongs to its body. So the blocks of
enums and of tables can be compared with one form, that of `Exports`. -/
theorem exports_joinText (comment : List String) (hcomment : comment ≠ [])
    (constant body : String) (rest : List String) :
    Exports (joinText (["/**"] ++ comment ++
      (" */" :: ("export const " ++ constant ++ "=" ++ body) :: rest))) constant := by
  -- Whether lines follow the declaration or not, what follows its start is one text.
  obtain ⟨tail, htail⟩ : ∃ tail, joinText (("export const " ++ constant ++ "=" ++ body) :: rest) =
      "export const " ++ constant ++ "=" ++ (body ++ tail) := by
    cases rest with
    | nil =>
      refine ⟨"", ?_⟩
      rw [String.append_empty, joinText_singleton]
    | cons line rest =>
      refine ⟨"\n" ++ joinText (line :: rest), ?_⟩
      rw [joinText_cons _ (List.cons_ne_nil line rest)]
      simp only [String.append_assoc]
  refine ⟨joinText comment, body ++ tail, ?_⟩
  rw [List.append_assoc, List.singleton_append, joinText_cons _ (by simp [hcomment]),
    joinText_append hcomment (List.cons_ne_nil _ _), joinText_cons " */" (List.cons_ne_nil _ _),
    htail, joinText_cons "/**" (by simp), joinText_cons (joinText comment) (by simp),
    joinText_cons " */" (by simp), joinText_singleton]

/-- The `schemaBlock` of a record exports the constant that is named after
its type, for an enum as for a table. -/
theorem exports_schemaBlock (r : TypeRecord) : Exports (schemaBlock r) (schemaName r.name) := by
  unfold schemaBlock
  split
  · -- The block of an enum has its schema on one line.
    let schema : String :=
      if r.enumValues.isEmpty then "z.never()"
      else "z.enum([" ++ Text.joinWith "," (r.enumValues.map Json.quote) ++ "])"
    have hlines := exports_joinText
      (((present? r.typeDef.description).map docLines).toList ++
        [" * Zod schema for the \"" ++ r.typeDef.name ++ "\" union"])
      (by simp) (schemaName r.name) (schema ++ describe r.typeDef.description ++ ";") []
    unfold enumSchema
    simpa only [schema, TypeRecord.name, String.append_assoc, List.append_assoc, List.cons_append,
      List.nil_append] using hlines
  · -- That of a table opens an object on the line of its name.
    have hlines := exports_joinText
      ([" * Zod schema for the \"" ++ r.typeDef.name ++ "\" interface"] ++ tableTags r.typeDef)
      (by simp) (schemaName r.name) "z.object(\x7b"
      (r.typeDef.props.map schemaProperty ++ ["\x7d)" ++ describe r.typeDef.description ++ ";"])
    have hopening : "=" ++ "z.object(\x7b" = "=z.object(\x7b" := rfl
    unfold objectSchema
    simpa only [TypeRecord.name, hopening, String.append_assoc, List.append_assoc,
      List.cons_append, List.nil_append] using hlines

/-- **The documents about types agree.** The list of types has one entry for
each record, in the order of the names, and the short list has the same
entries with the names of the properties in place of the properties. If no
two records have one name, the index has the names of the records as its
keys. The entry of a record holds its type as the list has it, and the name
of the constant that the schemas export for it. -/
theorem type_documents_agree (model : TypeModel) :
    ∃ types : List TypeDef,
      types.Perm (model.records.map TypeRecord.typeDef) ∧
      types.Pairwise (fun a b => a.name ≤ b.name) ∧
      typeListPayload TypeDef.toJson model = .arr (types.map fun t => t.toJson.sorted) ∧
      typeListPayload TypeDef.toShortJson model = .arr (types.map fun t => t.toShortJson.sorted) ∧
      (∀ t ∈ types, recordName? t.toJson.sorted = some t.name ∧
        ∃ fields, t.toJson.sorted = .obj fields ∧
          t.toShortJson.sorted = .obj (fields.map t.shortField) ∧
          ("props" ∈ fields.map Prod.fst ↔ t.props ≠ [])) ∧
      ((model.records.map TypeRecord.name).Nodup →
        ∃ index, typeIndexPayload model = .obj index ∧
          (index.map Prod.fst).Perm (model.records.map TypeRecord.name) ∧
          ∀ r ∈ model.records, ∃ entry constant,
            lookup index r.name = some (.obj entry) ∧
            lookup entry "typeDef" = some r.typeDef.toJson.sorted ∧
            (∀ t ∈ types, t.name = r.name ↔ t = r.typeDef) ∧
            lookup entry "schemaName" = some (.str constant) ∧
            zod model.records =
              joinBlocks ((TypeRecord.sort model.records).map schemaBlock) zodHeader ∧
            Exports (schemaBlock r) constant) := by
  have hperm : (typesByName model).Perm (model.records.map TypeRecord.typeDef) :=
    List.mergeSort_perm _ _
  refine ⟨typesByName model, hperm, pairwise_typesByName model,
    typeListPayload_eq Property.toJson model, typeListPayload_eq _ model, ?_, ?_⟩
  · intro t _
    exact ⟨TypeDef.recordName?_sorted_toJsonWith Property.toJson t, t.sorted_toShortJson⟩
  · intro hnames
    obtain ⟨index, hindex, hkeys, hentries⟩ := exists_index hnames
    refine ⟨index, hindex, hkeys, ?_⟩
    intro r hr
    refine ⟨indexFields r.typeDef, schemaName r.name, hentries r hr,
      (lookup_indexFields r.typeDef).1, ?_, (lookup_indexFields r.typeDef).2, rfl,
      exports_schemaBlock r⟩
    intro t ht
    -- Different names leave one type of each name, so the name tells the type.
    obtain ⟨r', hr', rfl⟩ := List.mem_map.mp (hperm.mem_iff.mp ht)
    refine ⟨fun hname => ?_, fun heq => congrArg TypeDef.name heq⟩
    rw [List.inj_on_of_nodup_map hnames hr' hr hname]

/-- A table whose type is called `name`, the key that comes first in every
object, with properties that are not in the order of their names. -/
def namedRecord : TypeRecord where
  typeDef :=
    { name := "name", kind := .table, sqlTable := some "name"
      props := [{ name := "b", type := TypeMap.textMapping },
        { name := "a", type := TypeMap.textMapping }] }
  baseName := "name"
  shape := .read

/-- An enum whose name comes before that of the table. -/
def moodRecord : TypeRecord where
  typeDef := { name := "Mood", kind := .enum }
  baseName := "Mood"
  shape := .enum
  enumValues := ["calm"]

/-- The index of the two types has both, and the short list has the
properties as they were declared. -/
theorem type_documents_agree_named :
    ∃ (types : List TypeDef) (index entry : List (String × Json)) (constant : String),
      types.Perm [namedRecord.typeDef, moodRecord.typeDef] ∧
        typeListPayload TypeDef.toShortJson ⟨[namedRecord, moodRecord], [], {}⟩ =
          .arr (types.map fun t => t.toShortJson.sorted) ∧
        typeIndexPayload ⟨[namedRecord, moodRecord], [], {}⟩ = .obj index ∧
        (index.map Prod.fst).Perm ["name", "Mood"] ∧
        lookup index "name" = some (.obj entry) ∧
        lookup entry "typeDef" = some namedRecord.typeDef.toJson.sorted ∧
        lookup entry "schemaName" = some (.str constant) ∧
        Exports (schemaBlock namedRecord) constant := by
  obtain ⟨types, hperm, -, -, hshort, -, hindex⟩ :=
    type_documents_agree ⟨[namedRecord, moodRecord], [], {}⟩
  obtain ⟨index, hpayload, hkeys, hentries⟩ := hindex (by decide)
  obtain ⟨entry, constant, hentry, htype, -, hconstant, -, hexports⟩ :=
    hentries namedRecord List.mem_cons_self
  exact ⟨types, index, entry, constant, hperm, hshort, hpayload, hkeys, hentry, htype, hconstant,
    hexports⟩

end SchemaTypes.Emit
