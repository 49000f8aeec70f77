import SchemaTypes.Proofs.Json.Order
import SchemaTypes.TypeMap.Basic

/-!
# `SchemaTypes.Proofs.TypeMap.Overriding`: what an override entry leaves

An override entry is merged by writing the mapping out as fields, setting
the fields of the entry over them and reading a mapping back. This module
says what comes of it without that detour, field by field.

* `isMergeable` is the condition on an entry, in terms of its own fields
  only. `exists_override_iff` shows that the mapping in place does not
  matter for it: what a mapping writes out is accepted again.
* `lookup_setFields_of_override` is the result: a field has the last value
  that the entry gives to it, else the one it had, and a name that was
  never given is `string`. Null stands for a field that is not set.

Both ask that the mapping in place is `Tidy`: the fields it keeps for no
target stand once and are none of the known ones. An override leaves a
tidy mapping behind.

`merge_of_fresh` is the case of entries for names that a table does not
have yet: the mappings read from the entries are added in their order.
-/

set_option autoImplicit false

namespace SchemaTypes.Json

namespace Checked

variable {α β : Type}

/-- A value of `Checked` that is changed after its check is valid if the
check was passed. -/
theorem map_eq_valid_iff {f : α → β} {x : Checked α} {b : β} :
    f <$> x = .valid b ↔ ∃ a, x = .valid a ∧ f a = b := by
  cases x with
  | valid a =>
    show Checked.valid (f a) = .valid b ↔ _
    simp
  | faulty faults =>
    show Checked.faulty faults = .valid b ↔ _
    simp

/-- Two checks are passed together if each is passed. Faults of both are
kept in `Checked`, so neither check hides the other one. -/
theorem seq_eq_valid_iff {f : Checked (α → β)} {x : Checked α} {b : β} :
    f <*> x = .valid b ↔ ∃ g a, f = .valid g ∧ x = .valid a ∧ g a = b := by
  show apply f x = .valid b ↔ _
  cases f <;> cases x <;> simp [apply]

/-- Saying by `under` in which field a fault was found makes no value valid
or faulty. -/
theorem under_eq_valid_iff {step : Step} {x : Checked α} {a : α} :
    under step x = .valid a ↔ x = .valid a := by
  cases x <;> simp [under]

end Checked

/-- The check of a field that may be left out, `optional`, with its look-up
under one name written out. -/
theorem optional_eq {α : Type} (fields : List (String × Json)) (key : String) (absent : α)
    (check : Json → Checked α) :
    optional fields key absent check =
      match lookup fields key with
      | some value => Checked.under (.field key) (check value)
      | none => .valid absent := by
  unfold optional optionalEither lookupEither
  cases lookup fields key <;> rfl

/-- A text that may be left out is valid if the field holds one. Null is no
text here, as against `optional_checkTextOrNull_eq_valid_iff`. -/
theorem optional_checkText_eq_valid_iff {fields : List (String × Json)} {key absent s : String} :
    optional fields key absent checkText = .valid s ↔
      (lookup fields key).getD (.str absent) = .str s := by
  rw [optional_eq]
  cases lookup fields key with
  | none => simp
  | some value =>
    rw [Option.getD_some]
    cases value <;> simp [Checked.under_eq_valid_iff, checkText, Checked.refuse]

/-- A spelling that may be left out is valid if the field holds a text or
null, and null is the same as leaving it out (`strOrNull`). -/
theorem optional_checkTextOrNull_eq_valid_iff {fields : List (String × Json)} {key : String}
    {spelling : Option String} :
    optional fields key none checkTextOrNull = .valid spelling ↔
      (lookup fields key).getD .null = strOrNull spelling := by
  rw [optional_eq]
  cases lookup fields key with
  | none => cases spelling <;> simp [strOrNull]
  | some value =>
    rw [Option.getD_some]
    cases value <;> cases spelling <;>
      simp [Checked.under_eq_valid_iff, checkTextOrNull, Checked.refuse, strOrNull]

end SchemaTypes.Json

namespace SchemaTypes.TypeMapping

open Json

/-! ### Reading a mapping from fields -/

/-- A mapping as it is read from a list of fields. -/
structure ReadFrom (fields : List (String × Json)) (m : TypeMapping) : Prop where
  name : (lookup fields "name").getD (.str "string") = .str m.name
  ts : (lookup fields "ts").getD .null = strOrNull m.ts
  zod : (lookup fields "zod").getD .null = strOrNull m.zod
  convo : (lookup fields "convo").getD .null = strOrNull m.convo
  sql : (lookup fields "sql").getD .null = strOrNull m.sql
  extras : m.extras = fields.filter fun field => !knownFields.contains field.1

/-- Reading a mapping is the relation `ReadFrom`: the checks of `ofFields`
are passed exactly if the fields hold what the mapping has. All further
facts about reading start from here. -/
theorem ofFields_eq_valid_iff {fields : List (String × Json)} {m : TypeMapping} :
    ofFields fields = .valid m ↔ ReadFrom fields m := by
  simp only [ofFields, Checked.seq_eq_valid_iff, Checked.map_eq_valid_iff,
    optional_checkText_eq_valid_iff, optional_checkTextOrNull_eq_valid_iff]
  constructor
  · rintro ⟨_, sql, ⟨_, convo, ⟨_, zod, ⟨_, ts, ⟨name, hname, rfl⟩, hts, rfl⟩, hzod, rfl⟩, hconvo,
      rfl⟩, hsql, rfl⟩
    exact ⟨hname, hts, hzod, hconvo, hsql, rfl⟩
  · rintro ⟨hname, hts, hzod, hconvo, hsql, hextras⟩
    exact ⟨_, m.sql, ⟨_, m.convo, ⟨_, m.zod, ⟨_, m.ts, ⟨m.name, hname, rfl⟩, hts, rfl⟩, hzod, rfl⟩,
      hconvo, rfl⟩, hsql, by rw [← hextras]⟩

/-- Whether a known field may hold a value: a text, or null for any of
them but the name. -/
def accepts (key : String) : Json → Bool
  | .str _ => true
  | .null => key != "name"
  | _ => false

/-- A name can be read exactly if the field is missing or its value passes
`accepts`. -/
theorem exists_name_iff {fields : List (String × Json)} :
    (∃ s, (lookup fields "name").getD (.str "string") = .str s) ↔
      (lookup fields "name").all (accepts "name") = true := by
  cases lookup fields "name" with
  | none => simp
  | some value => cases value <;> simp [accepts]

/-- A spelling can be read exactly if the field is missing or its value
passes `accepts`. This serves the four targets alike. -/
theorem exists_spelling_iff {fields : List (String × Json)} {key : String} (hkey : key ≠ "name") :
    (∃ spelling, (lookup fields key).getD .null = strOrNull spelling) ↔
      (lookup fields key).all (accepts key) = true := by
  cases lookup fields key with
  | none =>
    simp only [Option.getD_none, Option.all_none, iff_true]
    exact ⟨none, rfl⟩
  | some value =>
    simp only [Option.getD_some, Option.all_some]
    cases value with
    | str s => exact iff_of_true ⟨some s, rfl⟩ rfl
    | null => exact iff_of_true ⟨none, rfl⟩ (by simpa [accepts] using hkey)
    | _ =>
      refine iff_of_false ?_ (by simp [accepts])
      rintro ⟨spelling, h⟩
      cases spelling <;> cases h

/-- A mapping can be read by `ofFields` exactly from fields whose known ones
are accepted. Nothing is asked of the other fields. -/
theorem exists_ofFields_iff {fields : List (String × Json)} :
    (∃ m, ofFields fields = .valid m) ↔
      ∀ key ∈ knownFields, (lookup fields key).all (accepts key) = true := by
  simp only [knownFields, List.forall_mem_cons, List.not_mem_nil, false_implies,
    implies_true, and_true]
  rw [← exists_name_iff, ← exists_spelling_iff (by decide), ← exists_spelling_iff (by decide),
    ← exists_spelling_iff (by decide), ← exists_spelling_iff (by decide)]
  constructor
  · rintro ⟨m, hm⟩
    have hread := ofFields_eq_valid_iff.mp hm
    exact ⟨⟨_, hread.name⟩, ⟨_, hread.ts⟩, ⟨_, hread.zod⟩, ⟨_, hread.convo⟩, ⟨_, hread.sql⟩⟩
  · rintro ⟨⟨name, hname⟩, ⟨ts, hts⟩, ⟨zod, hzod⟩, ⟨convo, hconvo⟩, ⟨sql, hsql⟩⟩
    exact ⟨⟨name, ts, zod, convo, sql, _⟩,
      ofFields_eq_valid_iff.mpr ⟨hname, hts, hzod, hconvo, hsql, rfl⟩⟩

/-! ### Writing a mapping out -/

/-- The fields that a mapping keeps for no target stand once, and none of
them is a known one. -/
structure Tidy (m : TypeMapping) : Prop where
  once : NamedOnce m.extras
  unknown : ∀ field ∈ m.extras, field.1 ∉ knownFields

/-- A mapping without additional fields is `Tidy`, as all that this says is
about them. -/
theorem tidy_of_extras_eq_nil {m : TypeMapping} (h : m.extras = []) : m.Tidy :=
  ⟨h ▸ List.Pairwise.nil, h ▸ nofun⟩

/-- All fields of a mapping that is `Tidy` stand once: the known names
differ, and the additional fields have other names. -/
theorem Tidy.namedOnce_fields {m : TypeMapping} (h : m.Tidy) : NamedOnce m.fields := by
  show (knownFields ++ m.extras.map Prod.fst).Nodup
  refine List.nodup_append.mpr ⟨by decide, h.once, ?_⟩
  rintro key hknown _ hextra rfl
  obtain ⟨field, hfield, rfl⟩ := List.mem_map.mp hextra
  exact h.unknown field hfield hknown

/-- The fields that a mapping which is `Tidy` writes out stand once, being
some of all its fields (`Tidy.namedOnce_fields`). -/
theorem Tidy.namedOnce_setFields {m : TypeMapping} (h : m.Tidy) : NamedOnce m.setFields :=
  h.namedOnce_fields.dropNulls

/-- A tidy mapping writes out a field with its value, unless that is null
(`NamedOnce.lookup_dropNulls`). -/
theorem Tidy.lookup_setFields {m : TypeMapping} (h : m.Tidy) (key : String) :
    lookup m.setFields key = present (lookup m.fields key) :=
  h.namedOnce_fields.lookup_dropNulls key

/-- A field that is not one of the `knownFields` is looked up among the
additional ones. -/
theorem lookup_fields_of_notMem {m : TypeMapping} {key : String} (hkey : key ∉ knownFields) :
    lookup m.fields key = lookup m.extras key := by
  simp only [knownFields, List.mem_cons, List.not_mem_nil, or_false, not_or] at hkey
  obtain ⟨hname, hts, hzod, hconvo, hsql⟩ := hkey
  simp only [lookup, fields, List.cons_append, List.nil_append, List.lookup_cons,
    beq_eq_false_iff_ne.mpr hname, beq_eq_false_iff_ne.mpr hts, beq_eq_false_iff_ne.mpr hzod,
    beq_eq_false_iff_ne.mpr hconvo, beq_eq_false_iff_ne.mpr hsql]

/-- The known fields that a mapping writes out are accepted again. A mapping
that is there is therefore never the reason for a refusal, as
`accepts_currentFields` says. -/
theorem Tidy.accepts_lookup {m : TypeMapping} (h : m.Tidy) {key : String}
    (hkey : key ∈ knownFields) : (lookup m.setFields key).all (accepts key) = true := by
  have hspelling : ∀ spelling, (present (some (strOrNull spelling))).all (accepts key) = true := by
    intro spelling
    cases spelling <;> rfl
  rw [h.lookup_setFields]
  simp only [knownFields, List.mem_cons, List.not_mem_nil, or_false] at hkey
  rcases hkey with rfl | rfl | rfl | rfl | rfl
  · rfl
  · exact hspelling m.ts
  · exact hspelling m.zod
  · exact hspelling m.convo
  · exact hspelling m.sql

/-- Leaving out the `knownFields` does not change what is found under
another name. -/
theorem lookup_filter_unknown {fields : List (String × Json)} {key : String}
    (hkey : key ∉ knownFields) :
    lookup (fields.filter fun field => !knownFields.contains field.1) key = lookup fields key := by
  unfold lookup
  rw [lookup_eq_head?_fieldsAt, lookup_eq_head?_fieldsAt]
  unfold fieldsAt
  rw [List.filter_filter]
  congr 3
  funext field
  by_cases h : field.1 = key
  · subst h
    simpa using hkey
  · simp [h]

/-- What a field has that nothing was written to: only a name has
something. -/
def unwritten (key : String) : Option Json :=
  if key = "name" then some (.str "string") else none

/-- A mapping that was read from fields writes them out again, without those
that are null and with a name in any case. `unwritten` is the name that a
mapping has if none was given. -/
theorem ReadFrom.present_lookup_fields {fields : List (String × Json)} {m : TypeMapping}
    (h : ReadFrom fields m) (key : String) :
    present (lookup m.fields key) = present ((lookup fields key).or (unwritten key)) := by
  -- The four targets are alike: null and a missing field are read and written as one.
  have hspelling : ∀ {other : String} {spelling : Option String}, other ≠ "name" →
      (lookup fields other).getD .null = strOrNull spelling →
      present (some (strOrNull spelling)) =
        present ((lookup fields other).or (unwritten other)) := by
    intro other spelling hother hread
    rw [← hread, unwritten, if_neg hother, Option.or_none]
    cases lookup fields other <;> rfl
  by_cases hkey : key ∈ knownFields
  · simp only [knownFields, List.mem_cons, List.not_mem_nil, or_false] at hkey
    rcases hkey with rfl | rfl | rfl | rfl | rfl
    · show present (some (.str m.name)) = _
      rw [← h.name]
      cases lookup fields "name" <;> rfl
    · exact hspelling (by decide) h.ts
    · exact hspelling (by decide) h.zod
    · exact hspelling (by decide) h.convo
    · exact hspelling (by decide) h.sql
  · have hname : key ≠ "name" := by
      rintro rfl
      exact hkey List.mem_cons_self
    rw [lookup_fields_of_notMem hkey, h.extras, lookup_filter_unknown hkey, unwritten,
      if_neg hname, Option.or_none]

/-- A mapping that is `ReadFrom` fields that stand once is `Tidy`: its
additional fields are those that are not known. -/
theorem ReadFrom.tidy {fields : List (String × Json)} {m : TypeMapping} (h : ReadFrom fields m)
    (honce : NamedOnce fields) : m.Tidy where
  once := h.extras ▸ honce.sublist List.filter_sublist
  unknown := by
    intro field hfield
    rw [h.extras, List.mem_filter] at hfield
    simpa using hfield.2

/-- Fields that agree with a mapping on the known ones are read as that
mapping, but for the fields that it keeps for no target. Those are taken
from the fields, as `ReadFrom` says. -/
theorem Tidy.readFrom_of_lookup {m : TypeMapping} (h : m.Tidy) {fields : List (String × Json)}
    (hknown : ∀ key ∈ knownFields, lookup fields key = lookup m.setFields key) :
    ReadFrom fields
      { m with extras := fields.filter fun field => !knownFields.contains field.1 } := by
  -- Null and a missing field are read alike.
  have hspelling : ∀ spelling, (present (some (strOrNull spelling))).getD .null =
      strOrNull spelling := by
    intro spelling
    cases spelling <;> rfl
  refine ⟨?_, ?_, ?_, ?_, ?_, rfl⟩
  · rw [hknown _ (by decide), h.lookup_setFields]
    rfl
  · rw [hknown _ (by decide), h.lookup_setFields]
    exact hspelling m.ts
  · rw [hknown _ (by decide), h.lookup_setFields]
    exact hspelling m.zod
  · rw [hknown _ (by decide), h.lookup_setFields]
    exact hspelling m.convo
  · rw [hknown _ (by decide), h.lookup_setFields]
    exact hspelling m.sql

/-- A mapping is `ReadFrom` what it writes out, if none of the fields that
it keeps for no target is null. A null would not be written out and would be
missing afterwards. -/
theorem Tidy.readFrom_setFields {m : TypeMapping} (h : m.Tidy)
    (hset : ∀ field ∈ m.extras, field.2 ≠ .null) : ReadFrom m.setFields m := by
  obtain ⟨known, hfields, hknown⟩ :
      ∃ known, m.fields = known ++ m.extras ∧ known.map Prod.fst = knownFields := ⟨_, rfl, rfl⟩
  have hunknown : ∀ field ∈ m.extras, (!knownFields.contains field.1) = true :=
    fun field hfield => by simpa using h.unknown field hfield
  -- The filter drops the fields in front, which are known, and keeps those behind.
  have hfront : (dropNulls known).filter (fun field => !knownFields.contains field.1) = [] := by
    rw [List.filter_eq_nil_iff]
    intro field hfield
    have hname : field.1 ∈ knownFields :=
      hknown ▸ List.mem_map_of_mem (mem_dropNulls.mp hfield).1
    simpa using hname
  have hextras : m.setFields.filter (fun field => !knownFields.contains field.1) = m.extras := by
    rw [setFields, hfields, dropNulls_append, dropNulls_eq_self hset, List.filter_append, hfront,
      List.nil_append, List.filter_eq_self.mpr hunknown]
  have hread := h.readFrom_of_lookup fun key _ => rfl
  rw [hextras] at hread
  exact hread

/-- Where the fields that a mapping keeps for no target hold finite numbers
only, its JSON is what it writes out. The known fields are texts or null,
which `finite` leaves alone. -/
theorem toJson_eq_of_allFinite {m : TypeMapping} (h : ∀ field ∈ m.extras, AllFinite field.2) :
    m.toJson = .obj m.setFields := by
  -- The known fields are spellings, which hold no numbers.
  have hspelling : ∀ spelling, finite (strOrNull spelling) = strOrNull spelling := by
    intro spelling
    cases spelling <;> rfl
  have hvalues : ∀ field ∈ m.setFields, (field.1, finite field.2) = field := by
    intro field hfield
    refine Prod.ext rfl ?_
    rcases List.mem_append.mp (mem_dropNulls.mp hfield).1 with hknown | hextra
    · simp only [List.mem_cons, List.not_mem_nil, or_false] at hknown
      rcases hknown with rfl | rfl | rfl | rfl | rfl
      · rfl
      · exact hspelling m.ts
      · exact hspelling m.zod
      · exact hspelling m.convo
      · exact hspelling m.sql
    · exact (h field hextra).finite_eq
  rw [toJson, finiteFields_eq_map, map_eq_self hvalues]

end SchemaTypes.TypeMapping

namespace SchemaTypes.TypeMap

open Json TypeMapping

/-! ### One override entry -/

/-- Whether an override entry can be merged: it is an object whose known
fields hold a text each, or null where the field is not the name. Of a
field that is written twice the last value counts. -/
def isMergeable : Json → Bool
  | .obj fields => knownFields.all fun key => (lastValue key fields).all (accepts key)
  | _ => false

/-- The fields of a mapping that may be missing. -/
def currentFields (current : Option TypeMapping) : List (String × Json) :=
  (current.map TypeMapping.setFields).getD []

/-- An override reads a mapping from the fields that are there, with those
of the entry set on top of them by `Json.setFields`. -/
theorem override_eq (current : Option TypeMapping) (fields : List (String × Json)) :
    override current fields = ofFields (Json.setFields fields (currentFields current)) :=
  rfl

section Override

variable {current : Option TypeMapping} (htidy : ∀ m ∈ current, m.Tidy)

include htidy

/-- The fields that an override starts from, `currentFields`, stand once. -/
theorem namedOnce_currentFields : NamedOnce (currentFields current) := by
  cases current with
  | none => exact List.Pairwise.nil
  | some m => exact (htidy m rfl).namedOnce_setFields

/-- The known fields among the `currentFields` are accepted, so only the
entry can be at fault. -/
theorem accepts_currentFields {key : String} (hkey : key ∈ knownFields) :
    (lookup (currentFields current) key).all (accepts key) = true := by
  cases current with
  | none => rfl
  | some m => exact (htidy m rfl).accepts_lookup hkey

/-- Whether an entry is merged hangs on the entry alone. Where it names a
known field its last value counts, and elsewhere `accepts_currentFields`
applies. -/
theorem exists_override_iff {fields : List (String × Json)} :
    (∃ m, override current fields = .valid m) ↔ isMergeable (.obj fields) = true := by
  simp only [override_eq, exists_ofFields_iff, lookup, Json.lookup_setFields, isMergeable,
    List.all_eq_true]
  constructor
  · intro h key hkey
    have hboth := h key hkey
    -- Where the entry names a field its own value is asked, elsewhere the one it had.
    cases hlast : lastValue key fields with
    | none => rfl
    | some value =>
      rw [hlast, Option.some_or] at hboth
      exact hboth
  · intro h key hkey
    cases hlast : lastValue key fields with
    | none =>
      rw [Option.none_or]
      exact accepts_currentFields htidy hkey
    | some value =>
      have hvalue := h key hkey
      rw [hlast] at hvalue
      exact hvalue

/-- An override leaves a tidy mapping behind, since `setFields` doubles no
field. -/
theorem tidy_of_override {fields : List (String × Json)} {m : TypeMapping}
    (h : override current fields = .valid m) : m.Tidy :=
  (ofFields_eq_valid_iff.mp h).tidy ((namedOnce_currentFields htidy).setFields fields)

/-- After an override a field has the last value (`lastValue`) that the
entry gives to it, else the one it had; null is no value, and a name is
there in any case. -/
theorem lookup_setFields_of_override {fields : List (String × Json)} {m : TypeMapping}
    (h : override current fields = .valid m) (key : String) :
    lookup m.setFields key =
      present (((lastValue key fields).or (lookup (currentFields current) key)).or
        (unwritten key)) := by
  rw [(tidy_of_override htidy h).lookup_setFields,
    (ofFields_eq_valid_iff.mp h).present_lookup_fields]
  unfold lookup
  rw [Json.lookup_setFields]
  rfl

end Override

/-- An entry that `mergeEntry` accepts is an object, and its override is
valid. -/
theorem mergeEntry_eq_ok_iff {m next : TypeMap} {key : String} {value : Json} :
    m.mergeEntry key value = .ok next ↔
      ∃ fields mapping, value = .obj fields ∧
        override (m.get? (canonicalName key)) fields = .valid mapping ∧
        m.set (canonicalName key) mapping = next := by
  unfold mergeEntry
  cases value with
  | obj fields =>
    cases hoverride : override (m.get? (canonicalName key)) fields with
    | valid mapping => simp [hoverride]
    | faulty faults => simp [hoverride]
  | _ => simp

/-- Entries for new names are added in their order. Their names have to be
canonical and different, and each of them has to give a mapping by itself.
The parameter `ι` stands for what the entries are made from: the built-in
table is merged in this way, and so is a document. -/
theorem merge_of_fresh {ι : Type} {fields : ι → List (String × Json)} {mapping : ι → TypeMapping}
    {added : List (String × ι)} {m : TypeMap}
    (honce : NamedOnce (m.entries ++ added.map fun entry => (entry.1, mapping entry.2)))
    (hcanonical : ∀ entry ∈ added, canonicalName entry.1 = entry.1)
    (hfields : ∀ entry ∈ added,
      NamedOnce (fields entry.2) ∧ ReadFrom (fields entry.2) (mapping entry.2)) :
    m.merge (added.map fun entry => (entry.1, .obj (fields entry.2))) =
      (⟨m.entries ++ added.map fun entry => (entry.1, mapping entry.2)⟩, none) := by
  induction added generalizing m with
  | nil =>
    rw [List.map_nil, List.map_nil, List.append_nil]
    rfl
  | cons entry added ih =>
    obtain ⟨key, value⟩ := entry
    have hkey := hcanonical (key, value) List.mem_cons_self
    dsimp only at hkey
    have hnew : key ∉ m.entries.map Prod.fst := honce.notMem_of_append
    obtain ⟨hvalueOnce, hread⟩ := hfields _ List.mem_cons_self
    -- A new name has no mapping to start from, so the fields are read as they are.
    have hvalid : override none (fields value) = .valid (mapping value) := by
      rw [override_eq, currentFields, setFields_of_namedOnce hvalueOnce]
      exact ofFields_eq_valid_iff.mpr hread
    have hentry : m.mergeEntry key (.obj (fields value)) =
        .ok ⟨m.entries ++ [(key, mapping value)]⟩ := by
      refine mergeEntry_eq_ok_iff.mpr ⟨fields value, mapping value, rfl, ?_, ?_⟩
      · rw [hkey, get?, lookup_eq_none_iff_notMem.mpr hnew]
        exact hvalid
      · rw [hkey]
        exact congrArg TypeMap.mk (setField_of_notMem hnew (mapping value))
    rw [List.map_cons, List.append_cons] at honce
    rw [List.map_cons, List.map_cons, List.append_cons, merge, hentry]
    exact ih honce (fun other hother => hcanonical other (List.mem_cons_of_mem _ hother))
      (fun other hother => hfields other (List.mem_cons_of_mem _ hother))

/-- After a mapping is set, its name leads to it and all others lead where
they led, as `lookup_setField` says of fields. -/
theorem get?_set (m : TypeMap) (key name : String) (mapping : TypeMapping) :
    (m.set name mapping).get? key = if key = name then some mapping else m.get? key :=
  lookup_setField key name mapping m.entries

end SchemaTypes.TypeMap
