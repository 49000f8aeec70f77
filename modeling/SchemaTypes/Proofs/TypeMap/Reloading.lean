import SchemaTypes.Emit.Documents
import SchemaTypes.Proofs.Json.RoundTrip
import SchemaTypes.Proofs.TypeMap.History
import SchemaTypes.TypeMap.File

/-!
# `SchemaTypes.Proofs.TypeMap.Reloading`: a computed type map is a type map file

The document of a computed type map has the form of a type map file. This
module loads it into an empty table and compares the two tables.

They are not equal. The document has the fields of a mapping in its own
order and leaves out those that are null, and its inner values are put in
order. `reloaded` is the mapping that comes back: it spells every target
alike, and its document is the same. The second holds because putting a
value in order twice changes nothing more.

`reload_typeMapDocument` is the statement about tables. It holds of every
table that calls lead to, if the values of additional fields are plain.
-/

set_option autoImplicit false

namespace SchemaTypes.TypeMapping

open Json

/-- A mapping that a document can hold: it is tidy, and its additional
fields have plain values. -/
structure Storable (m : TypeMapping) : Prop extends Tidy m where
  plain : ∀ field ∈ m.extras, Plain field.2

/-- A mapping that has known fields only is `Storable`, so a document can
hold it. The built-in mappings and those of enums are of this kind. -/
theorem storable_of_extras_eq_nil {m : TypeMapping} (h : m.extras = []) : m.Storable :=
  ⟨tidy_of_extras_eq_nil h, h ▸ nofun⟩

/-- The fields of a mapping in the order in which a document has them. -/
def orderedFields (m : TypeMapping) : List (String × Json) :=
  (sortedFields m.setFields).mergeSort fieldLe

/-- The mapping that comes back from a document. -/
def reloaded (m : TypeMapping) : TypeMapping :=
  { m with extras := m.orderedFields.filter fun field => !knownFields.contains field.1 }

/-- A spelling is written as a text or as null, and both are `Plain`. -/
theorem plain_strOrNull (spelling : Option String) : Plain (strOrNull spelling) := by
  cases spelling with
  | none => exact .null
  | some s => exact .str s

/-- All fields that a mapping which is `Storable` writes out have plain
values, the known ones since they are spellings. -/
theorem Storable.plain_setFields {m : TypeMapping} (h : m.Storable) :
    ∀ field ∈ m.setFields, Plain field.2 := by
  intro field hfield
  rcases List.mem_append.mp (mem_dropNulls.mp hfield).1 with hknown | hextra
  · simp only [List.mem_cons, List.not_mem_nil, or_false] at hknown
    rcases hknown with rfl | rfl | rfl | rfl | rfl
    · exact .str m.name
    · exact plain_strOrNull m.ts
    · exact plain_strOrNull m.zod
    · exact plain_strOrNull m.convo
    · exact plain_strOrNull m.sql
  · exact h.plain field hextra

/-- A storable mapping is written as it stands, because plain values hold no
number that JSON lacks (`Plain.allFinite`). -/
theorem Storable.toJson_eq {m : TypeMapping} (h : m.Storable) : m.toJson = .obj m.setFields :=
  toJson_eq_of_allFinite fun field hfield => (h.plain field hfield).allFinite

/-- The part of the document that is about one mapping has its fields in the
order of `orderedFields`. -/
theorem Storable.sorted_toJson {m : TypeMapping} (h : m.Storable) :
    sorted m.toJson = .obj m.orderedFields := by
  rw [h.toJson_eq, sorted, orderedFields]

section Tidy

variable {m : TypeMapping} (h : m.Tidy)

include h

/-- Sorting does not double a field, so the `orderedFields` stand once as
well. -/
theorem Tidy.namedOnce_orderedFields : NamedOnce m.orderedFields :=
  h.namedOnce_setFields.mergeSort_sortedFields

/-- A field of the document, one of the `orderedFields`, has the value it
had in the mapping, with the objects inside it sorted as well. -/
theorem Tidy.lookup_orderedFields (key : String) :
    lookup m.orderedFields key = (lookup m.setFields key).map sorted := by
  have hperm : m.orderedFields.Perm (m.setFields.map fun field => (field.1, sorted field.2)) := by
    rw [← sortedFields_eq_map]
    exact List.mergeSort_perm _ _
  unfold lookup
  rw [(h.namedOnce_setFields.map_snd sorted).lookup_perm hperm, lookup_map_snd]

/-- From the fields of the document the mapping `reloaded` is read. It
agrees with the old one on every known field and differs at most in the
order of the others. -/
theorem Tidy.readFrom_orderedFields : ReadFrom m.orderedFields m.reloaded := by
  refine h.readFrom_of_lookup fun key hkey => ?_
  -- A known field holds a text, and a text is in order as it is.
  have haccepts := h.accepts_lookup hkey
  rw [h.lookup_orderedFields]
  cases hvalue : lookup m.setFields key with
  | none => rfl
  | some value =>
    rw [hvalue] at haccepts
    cases value with
    | str s => rfl
    | null => rfl
    | _ => nomatch haccepts

/-- What comes back, the `reloaded` mapping, is tidy again, being read from
fields that stand once. -/
theorem Tidy.tidy_reloaded : m.reloaded.Tidy :=
  h.readFrom_orderedFields.tidy h.namedOnce_orderedFields

/-- No field of the document is null: nulls are not written out, and sorting
makes none (`sorted_eq_null_iff`). -/
theorem Tidy.lookup_orderedFields_ne_null (key : String) :
    lookup m.orderedFields key ≠ some .null := by
  rw [h.lookup_orderedFields, h.lookup_setFields]
  intro hnull
  obtain ⟨value, hvalue, hsorted⟩ := Option.map_eq_some_iff.mp hnull
  rw [sorted_eq_null_iff.mp hsorted] at hvalue
  unfold present at hvalue
  split at hvalue
  next => nomatch hvalue
  next hne => exact hne hvalue

/-- What comes back writes out the fields of the document, if perhaps in
another order. Lists of fields that stand once are compared by looking up
each name (`NamedOnce.perm_of_lookup`). -/
theorem Tidy.perm_setFields_reloaded : m.reloaded.setFields.Perm m.orderedFields := by
  refine NamedOnce.perm_of_lookup h.tidy_reloaded.namedOnce_setFields
    h.namedOnce_orderedFields fun key => ?_
  show lookup m.reloaded.setFields key = lookup m.orderedFields key
  rw [h.tidy_reloaded.lookup_setFields, h.readFrom_orderedFields.present_lookup_fields]
  by_cases hname : key = "name"
  · subst hname
    rw [h.lookup_orderedFields, h.lookup_setFields]
    rfl
  · rw [unwritten, if_neg hname, Option.or_none,
      present_eq_self (h.lookup_orderedFields_ne_null key)]

end Tidy

/-- What comes back can be stored again. Its additional fields are values of
the document, and sorting keeps values plain (`Plain.sorted`). -/
theorem Storable.storable_reloaded {m : TypeMapping} (h : m.Storable) : m.reloaded.Storable where
  toTidy := h.tidy_reloaded
  plain := by
    intro field hfield
    have hmem : field ∈ sortedFields m.setFields :=
      List.mem_mergeSort.mp (List.mem_filter.mp hfield).1
    rw [sortedFields_eq_map] at hmem
    obtain ⟨old, hold, rfl⟩ := List.mem_map.mp hmem
    exact (h.plain_setFields old hold).sorted

/-- What comes back has the same document. By `Tidy.perm_setFields_reloaded`
it writes out the same fields, and sorting forgets their order. -/
theorem Storable.sorted_toJson_reloaded {m : TypeMapping} (h : m.Storable) :
    sorted m.reloaded.toJson = sorted m.toJson :=
  calc sorted m.reloaded.toJson
      = sorted (.obj m.reloaded.setFields) := by rw [h.storable_reloaded.toJson_eq]
    _ = sorted (.obj m.orderedFields) :=
        h.namedOnce_orderedFields.sorted_obj_eq h.perm_setFields_reloaded
    _ = sorted (sorted m.toJson) := by rw [h.sorted_toJson]
    _ = sorted m.toJson := sorted_sorted _

/-- Mappings that spell every target alike. -/
def SpelledAlike (a b : TypeMapping) : Prop :=
  a.tsType = b.tsType ∧ a.zodType = b.zodType ∧ a.convoType = b.convoType

end SchemaTypes.TypeMapping

namespace SchemaTypes.TypeMap

open Json TypeMapping

/-! ### Tables that a document can hold -/

/-- A table with canonical names that stand once, whose mappings a document
can hold. -/
structure Portable (m : TypeMap) : Prop extends Keyed m where
  storable : ∀ entry ∈ m.entries, entry.2.Storable

/-- Setting a storable mapping under a canonical name keeps a table
`Portable`. -/
theorem Portable.set {m : TypeMap} (h : m.Portable) (name : String) {mapping : TypeMapping}
    (hmapping : mapping.Storable) : Portable (m.set (canonicalName name) mapping) where
  toKeyed := h.toKeyed.set name mapping
  storable := by
    rintro entry hentry
    rcases mem_of_mem_setField hentry with rfl | hold
    · exact hmapping
    · exact h.storable entry hold

/-- The built-in table and the empty one are `Portable`, as no built-in
mapping has additional fields. -/
theorem portable_start (clear : Bool) : Portable (start clear) where
  toKeyed := keyed_start clear
  storable := by
    have hknown : ∀ entry ∈ (start clear).entries, entry.2.extras = [] := by
      cases clear <;> decide +kernel
    exact fun entry hentry => storable_of_extras_eq_nil (hknown entry hentry)

/-- An override with plain values leaves a mapping that is `Storable`. Its
additional fields are those of the entry and those of the mapping before
it. -/
theorem storable_of_override {current : Option TypeMapping} (hcurrent : ∀ m ∈ current, m.Storable)
    {fields : List (String × Json)} (hfields : ∀ field ∈ fields, Plain field.2) {m : TypeMapping}
    (h : override current fields = .valid m) : m.Storable where
  toTidy := tidy_of_override (fun m hm => (hcurrent m hm).toTidy) h
  plain := by
    intro field hfield
    rw [(ofFields_eq_valid_iff.mp h).extras] at hfield
    rcases mem_of_mem_setFields (List.mem_filter.mp hfield).1 with hnew | hold
    · exact hfields field hnew
    · cases current with
      | none => nomatch hold
      | some current => exact (hcurrent current rfl).plain_setFields field hold

/-- Every history whose entries have plain values leads to a portable table:
`after_induction` with `Portable.set` as its step. -/
theorem portable_after (clear : Bool) (changes : List Change)
    (hplain : ∀ key fields, Offered changes key fields → ∀ field ∈ fields, Plain field.2) :
    Portable ((start clear).after changes) := by
  refine after_induction changes ?_ ?_ (portable_start clear)
  · intro m key fields mapping hoffered h hvalid
    refine h.set key (storable_of_override ?_ (hplain key fields hoffered) hvalid)
    intro current hcurrent
    exact h.storable _ (mem_of_lookup_eq_some hcurrent)
  · intro m sqlName typeName h
    exact h.set sqlName (storable_of_extras_eq_nil rfl)

/-! ### Loading a document -/

/-- The entries of a table as a document has them. -/
def documentFields (m : TypeMap) : List (String × Json) :=
  m.snapshot.map fun entry => (entry.1, entry.2.toJson)

/-- The table that a document of these entries is loaded as. -/
def reload (entries : List (String × TypeMapping)) : TypeMap :=
  ⟨entries.map fun entry => (entry.1, entry.2.reloaded)⟩

/-- The `documentFields` are the entries of the table, each with its sorted
value, in some order. -/
theorem perm_sortedFields_documentFields (m : TypeMap) :
    (sortedFields m.documentFields).Perm
      (m.entries.map fun entry => (entry.1, sorted entry.2.toJson)) := by
  rw [sortedFields_eq_map, documentFields, List.map_map]
  exact m.perm_snapshot.map _

namespace Portable

variable {m : TypeMap} (h : m.Portable)

include h

/-- The document of a portable table is a plain value, so that it can be
read back from its text (`parse?_pretty`). -/
theorem plain_sorted_documentFields : Plain (sorted (.obj m.documentFields)) := by
  refine Plain.sorted (.obj ?_ ?_)
  · exact NamedOnce.map_snd (h.once.perm m.perm_snapshot) toJson
  · intro field hfield
    obtain ⟨entry, hentry, rfl⟩ := List.mem_map.mp hfield
    have hstorable := h.storable entry (m.perm_snapshot.mem_iff.mp hentry)
    show Plain entry.2.toJson
    rw [hstorable.toJson_eq]
    exact .obj hstorable.namedOnce_setFields hstorable.plain_setFields

/-- The document has the entries of the table in some order, each with its
fields in theirs. The order is that of `fieldLe`, but all that matters from
here on is that the entries are the same. -/
theorem exists_sorted_documentFields : ∃ entries : List (String × TypeMapping),
    entries.Perm m.entries ∧
    sorted (.obj m.documentFields) =
      .obj (entries.map fun entry => (entry.1, .obj entry.2.orderedFields)) := by
  have hfields : sortedFields m.documentFields =
      m.snapshot.map fun entry => (entry.1, .obj entry.2.orderedFields) := by
    rw [sortedFields_eq_map, documentFields, List.map_map]
    refine List.map_congr_left fun entry hentry => ?_
    exact Prod.ext rfl (h.storable entry (m.perm_snapshot.mem_iff.mp hentry)).sorted_toJson
  -- Sorting the entries by the fields they become gives the order of the document.
  refine ⟨m.snapshot.mergeSort fun a b =>
    fieldLe (a.1, .obj a.2.orderedFields) (b.1, .obj b.2.orderedFields),
    (List.mergeSort_perm _ _).trans m.perm_snapshot, ?_⟩
  rw [sorted, hfields]
  refine congrArg Json.obj (List.map_mergeSort ?_).symm
  intro a _ b _
  rfl

variable {entries : List (String × TypeMapping)} (hperm : entries.Perm m.entries)

include hperm

/-- Merging the document into an empty table gives the table `reload
entries` and refuses nothing. All of its entries are new, so
`merge_of_fresh` applies. -/
theorem merge_document :
    (start true).merge (entries.map fun entry => (entry.1, .obj entry.2.orderedFields)) =
      (reload entries, none) := by
  refine @merge_of_fresh TypeMapping orderedFields reloaded entries (start true) ?_ ?_ ?_
  · exact (h.once.perm hperm).map_snd reloaded
  · exact fun entry hentry => h.canonical entry (hperm.mem_iff.mp hentry)
  · intro entry hentry
    have hstorable := h.storable entry (hperm.mem_iff.mp hentry)
    exact ⟨hstorable.namedOnce_orderedFields, hstorable.readFrom_orderedFields⟩

/-- The table that was loaded has the same document: the same names with the
same sorted values, and a list of fields that stand once is sorted in one
way only (`NamedOnce.mergeSort_eq`). -/
theorem sorted_documentFields_reload :
    sorted (.obj (reload entries).documentFields) = sorted (.obj m.documentFields) := by
  have hvalues : (reload entries).entries.map (fun entry => (entry.1, sorted entry.2.toJson)) =
      entries.map fun entry => (entry.1, sorted entry.2.toJson) := by
    rw [reload, List.map_map]
    refine List.map_congr_left fun entry hentry => ?_
    exact Prod.ext rfl (h.storable entry (hperm.mem_iff.mp hentry)).sorted_toJson_reloaded
  have hloaded := (reload entries).perm_sortedFields_documentFields
  rw [hvalues] at hloaded
  have hfields : (sortedFields (reload entries).documentFields).Perm
      (sortedFields m.documentFields) :=
    hloaded.trans ((hperm.map _).trans m.perm_sortedFields_documentFields.symm)
  have honce : NamedOnce (sortedFields m.documentFields) :=
    (h.once.map_snd fun mapping => sorted mapping.toJson).perm m.perm_sortedFields_documentFields
  rw [sorted, sorted, honce.mergeSort_eq hfields.symm]

/-- A name of the table that was loaded has the mapping that came back for
it, the `reloaded` one. -/
theorem get?_reload (key : String) : (reload entries).get? key = (m.get? key).map reloaded := by
  unfold get?
  rw [reload, lookup_map_snd, h.once.lookup_perm hperm]

/-- The table that was loaded spells every type alike (`SpelledAlike`). A
mapping that comes back differs in its additional fields only, and no target
looks at them. -/
theorem spelledAlike_resolve_reload (name : String) :
    SpelledAlike ((reload entries).resolve name) (m.resolve name) := by
  unfold resolve
  rw [h.get?_reload hperm, h.get?_reload hperm]
  cases m.get? (canonicalName name) with
  | some mapping => exact ⟨rfl, rfl, rfl⟩
  | none =>
    cases m.get? defaultKey with
    | some mapping => exact ⟨rfl, rfl, rfl⟩
    | none => exact ⟨rfl, rfl, rfl⟩

end Portable

end SchemaTypes.TypeMap

/-! ### Files -/

namespace SchemaTypes.FileSystem

/-- A path leads to a file with this text. -/
structure Holds (files : FileSystem) (p : Path) (contents : String) : Prop where
  usable : holdsNull p = false
  found : (files.locate p).bind files.entry? = some (.text contents)

/-- A file is read as the text that it holds if no carriage return stands in
it, as those are replaced when a file is read (`unifyNewlines_eq_self`). -/
theorem Holds.read_eq {files : FileSystem} {p : Path} {contents : String}
    (h : files.Holds p contents) (hreturn : '\r' ∉ contents.toList) :
    files.read p = .ok contents := by
  rw [read, if_neg (by simp [h.usable]), h.found]
  show Except.ok (String.ofList (Text.unifyNewlines contents.toList)) = _
  rw [Json.unifyNewlines_eq_self hreturn, String.ofList_toList]

end SchemaTypes.FileSystem

namespace SchemaTypes.TypeMap

open Json TypeMapping

/-- A file that holds the document of a plain object is loaded as the fields
of that object, which `parse?_pretty` reads back. -/
theorem loadFile_pretty {files : FileSystem} {path : String} {fields : List (String × Json)}
    (hplain : Plain (.obj fields))
    (hfile : files.Holds (Path.ofText path) (pretty (.obj fields) ++ "\n")) :
    loadFile files path = .ok fields := by
  have hreturn : '\r' ∉ (pretty (.obj fields) ++ "\n").toList := by
    rw [String.toList_append, pretty, String.toList_ofList, List.mem_append]
    rintro (hwritten | hend)
    · exact hplain.return_notMem_write .indented 0 hwritten
    · exact absurd hend (by decide)
  -- `delta` and not `unfold`: the equation of `loadFile` takes seconds to derive.
  delta loadFile
  simp only [hfile.read_eq hreturn, parse?_pretty hplain]

/-- With one file that can be loaded and merged, the outcome of `mergeFiles`
for the list of files is the merged table. -/
theorem result_mergeFiles_singleton {files : FileSystem} {m merged : TypeMap} {path : Path}
    {entries : List (String × Json)} (hload : loadFile files path.text = .ok entries)
    (hmerge : m.merge entries = (merged, none)) :
    (mergeFiles files m [path]).result = .ok merged := by
  simp only [mergeFiles, mergeFile, bind, Logged.andThen, Logged.report, Logged.ofExcept, hload,
    hmerge]
  rfl

/-- **Reading a computed type map back reproduces it.** Start from the
built-in table or from nothing and make any calls whose additional fields
have plain values. Store the document of the table in a file and load that
file into an empty table. Then loading succeeds, the table that is loaded
has the same document, and both spell every type alike for every
target. -/
theorem reload_typeMapDocument (clear : Bool) (changes : List Change)
    (hplain : ∀ key fields, Offered changes key fields → ∀ field ∈ fields, Plain field.2)
    (model : TypeModel) (hmodel : model.typeMap = ((start clear).after changes).snapshot)
    (files : FileSystem) (path : Path)
    (hfile : files.Holds (Path.ofText path.text) (Emit.typeMapDocument model)) :
    ∃ loaded, (mergeFiles files (start true) [path]).result = .ok loaded ∧
      (∀ other : TypeModel, other.typeMap = loaded.snapshot →
        Emit.typeMapDocument other = Emit.typeMapDocument model) ∧
      ∀ name, SpelledAlike (loaded.resolve name) (((start clear).after changes).resolve name) := by
  have hportable := portable_after clear changes hplain
  obtain ⟨entries, hperm, hdocument⟩ := hportable.exists_sorted_documentFields
  -- The document of a model depends on the listing of its table only.
  have hpayload : ∀ (other : TypeModel) (m : TypeMap), other.typeMap = m.snapshot →
      Emit.typeMapDocument other = pretty (sorted (.obj m.documentFields)) ++ "\n" := by
    intro other m hother
    rw [Emit.typeMapDocument, Emit.typeMapPayload, hother, documentFields]
  have hfields := hportable.plain_sorted_documentFields
  rw [hpayload model _ hmodel, hdocument] at hfile
  rw [hdocument] at hfields
  refine ⟨reload entries, ?_, ?_, hportable.spelledAlike_resolve_reload hperm⟩
  · exact result_mergeFiles_singleton (loadFile_pretty hfields hfile)
      (hportable.merge_document hperm)
  · intro other hother
    rw [hpayload other _ hother, hpayload model _ hmodel,
      hportable.sorted_documentFields_reload hperm]

/-- An override with an array of named objects that are not in order, an
unset field and a spelling of `int`, and an enum. -/
def shapeChanges : List Change :=
  [.merge [("Shape", .obj [("parts", .arr [.obj [("name", .str "side"), ("size", .int (-3))],
      .obj [("name", .str "edge")]]), ("ts", .str "Shape"), ("note", .null)]),
    ("INT4", .obj [("zod", .null), ("unit", .str "m\n")])],
   .enum "shape_kind" "ShapeKind"]

/-- A model with the table that these changes lead to. -/
def shapeModel : TypeModel :=
  { records := [], typeMap := ((start false).after shapeChanges).snapshot, tableMap := {} }

/-- The document of the table in a file of the working directory. -/
def shapeFiles : FileSystem :=
  { entries := [(["work", "types.json"], .text (Emit.typeMapDocument shapeModel))],
    working := ["work"] }

/-- The hypotheses hold of this table and its file, so the table is loaded
back with its nested objects in order. -/
theorem reload_typeMapDocument_shapes :
    (∀ key fields, Offered shapeChanges key fields → ∀ field ∈ fields, Plain field.2) ∧
    shapeFiles.Holds (Path.ofText "types.json") (Emit.typeMapDocument shapeModel) ∧
    ∃ loaded, (mergeFiles shapeFiles (start true) [Path.ofText "types.json"]).result = .ok loaded ∧
      (∀ other : TypeModel, other.typeMap = loaded.snapshot →
        Emit.typeMapDocument other = Emit.typeMapDocument shapeModel) ∧
      ∀ name, SpelledAlike (loaded.resolve name)
        (((start false).after shapeChanges).resolve name) := by
  have hplain : ∀ key fields, Offered shapeChanges key fields →
      ∀ field ∈ fields, Plain field.2 := by
    rintro key fields ⟨entries, hentries, hfields⟩
    obtain ⟨⟩ | ⟨_, ⟨⟩ | ⟨_, ⟨⟩⟩⟩ := hentries
    obtain ⟨⟩ | ⟨_, ⟨⟩ | ⟨_, ⟨⟩⟩⟩ := hfields
    · -- The nested objects are plain, part by part.
      have hside : Plain (.obj [("name", .str "side"), ("size", .int (-3))]) :=
        .obj (by decide) (by simp [Plain.str, Plain.int])
      have hedge : Plain (.obj [("name", .str "edge")]) :=
        .obj (by decide) (by simp [Plain.str])
      simp [Plain.null, Plain.str, Plain.arr, hside, hedge]
    · simp [Plain.null, Plain.str]
  have hfile : shapeFiles.Holds (Path.ofText "types.json") (Emit.typeMapDocument shapeModel) :=
    ⟨by decide +kernel, rfl⟩
  exact ⟨hplain, hfile, reload_typeMapDocument false shapeChanges hplain shapeModel rfl shapeFiles
    (Path.ofText "types.json") hfile⟩

end SchemaTypes.TypeMap
