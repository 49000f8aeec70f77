import SchemaTypes.Generate.Artifact
import SchemaTypes.Proofs.TypeMap.Overriding

/-!
# `SchemaTypes.Proofs.Model.Rebuilding`: a type is read back from its JSON

The JSON of a type leaves out what is not set: texts that are null, flags
that are off, dimensions of what is no array, an empty list of properties.
A decoder has a default for each of these, and it accepts most fields under
two names. So every omission has to meet its default, in the type, in its
properties and in the mapping of each property.

The omissions are of one kind. `Property.toJson_eq` and
`TypeDef.toJson_eq` write the JSON as a list with all fields, in which null
stands for what is left out, without those that are null. A look-up in such
a list is a look-up in the full one (`NamedOnce.lookup_dropNulls`), and
`Restores` says of one field that its value and its default fit together.

`rebuilt_renders_alike` is the result: a type is read back as it was, and
every artifact is the same text with the record that is rebuilt. The
mappings must be `Lossless`, since a mapping may hold additional fields and
an additional field that is null is left out without a default.
-/

set_option autoImplicit false

namespace SchemaTypes.Json

variable {α : Type}

/-- A flag, or null if it is off. -/
def onOrNull (on : Bool) : Json :=
  if on then .bool true else .null

/-- A number, or null if it is zero. -/
def countOrNull (n : Nat) : Json :=
  if n = 0 then .null else .int n

/-- A list, or null if it has no items. -/
def itemsOrNull (items : List Json) : Json :=
  if items.isEmpty then .null else .arr items

/-! ### Fields that are written without null -/

/-- A field is decoded as `a` from its value, or by its default if the
value is null and the field is left out. -/
def Restores (check : Json → Checked α) (absent : α) (value : Json) (a : α) : Prop :=
  match value with
  | .null => absent = a
  | value => check value = .valid a

/-- A text that may be missing, written by `strOrNull`, is decoded as it was
written, and a missing one by its default. -/
theorem restores_strOrNull (text : Option String) :
    Restores checkTextOrNull none (strOrNull text) text := by
  cases text <;> rfl

/-- A flag is written by `onOrNull` only if it is on and decoded as off if
it is left out. -/
theorem restores_onOrNull (on : Bool) : Restores checkSwitch false (onOrNull on) on := by
  cases on <;> rfl

/-- A count is written by `countOrNull` only if it is not zero and decoded
as zero if it is left out. -/
theorem restores_countOrNull (n : Nat) : Restores checkNatural 0 (countOrNull n) n := by
  cases n with
  | zero => rfl
  | succ n => rfl

/-- A list of items that are read back one by one is read back by
`checkItems`. The number is the place of the first item, which only faults
would name. -/
theorem checkItems_map {write : α → Json} {check : Json → Checked α} {items : List α}
    (h : ∀ item ∈ items, check (write item) = .valid item) (index : Nat) :
    checkItems check index (items.map write) = .valid items := by
  induction items generalizing index with
  | nil => rfl
  | cons item items ih =>
    rw [List.map_cons, checkItems, h item List.mem_cons_self,
      ih (fun other hother => h other (List.mem_cons_of_mem _ hother))]
    rfl

/-- A list of items that can be read back is written by `itemsOrNull` only
if it has any and decoded as empty if it is left out. -/
theorem restores_itemsOrNull {write : α → Json} {check : Json → Checked α} {items : List α}
    (h : ∀ item ∈ items, check (write item) = .valid item) :
    Restores (checkList check) [] (itemsOrNull (items.map write)) items := by
  cases items with
  | nil => rfl
  | cons item items => exact checkItems_map h 0

section Decoding

variable {fields : List (String × Json)} (honce : NamedOnce fields) {key : String} {value : Json}
  (hfield : lookup fields key = some value) {check : Json → Checked α} {a : α}

include honce hfield

/-- A field is found among those that `dropNulls` leaves, unless its value
is null. -/
theorem lookup_dropNulls_of_lookup : lookup (dropNulls fields) key = present (some value) := by
  rw [← hfield]
  exact honce.lookup_dropNulls key

/-- A field that has to be there (`required`) is decoded as it was written,
since its value is never null. -/
theorem required_dropNulls (hne : value ≠ .null) (h : check value = .valid a) :
    required (dropNulls fields) key check = .valid a := by
  unfold required
  rw [lookup_dropNulls_of_lookup honce hfield,
    present_eq_self (fun heq => hne (Option.some.inj heq))]
  exact Checked.under_eq_valid_iff.mpr h

/-- A field that may be left out is decoded as it was written, unless its
second name is the name of another field. No second name that a decoder
knows is one, which `readFrom_allFields` checks by computing. -/
theorem optionalEither_dropNulls {other : String} {absent : α}
    (hother : other = key ∨ lookup fields other = none) (h : Restores check absent value a) :
    optionalEither (dropNulls fields) key other absent check = .valid a := by
  have hkey := lookup_dropNulls_of_lookup honce hfield
  -- The second name finds what the first does, or nothing.
  have heither : lookupEither (dropNulls fields) key other =
      (present (some value)).map (key, ·) := by
    unfold lookupEither
    rcases hother with rfl | hother
    · rw [hkey]
      cases present (some value) <;> rfl
    · have hnone : lookup (dropNulls fields) other = none :=
        (honce.lookup_dropNulls other).trans (congrArg present hother)
      rw [hkey, hnone]
      cases present (some value) <;> rfl
  unfold optionalEither
  rw [heither]
  cases value with
  | null => exact congrArg Checked.valid h
  | _ => exact Checked.under_eq_valid_iff.mpr h

end Decoding

end SchemaTypes.Json

/-! ### Mappings -/

namespace SchemaTypes.TypeMapping

open Json

/-- A mapping that its JSON tells whole: its additional fields stand once,
have names of their own and hold values that a document can hold, none of
them null. -/
structure Lossless (m : TypeMapping) : Prop extends Tidy m where
  set : ∀ field ∈ m.extras, field.2 ≠ .null
  finite : ∀ field ∈ m.extras, AllFinite field.2

/-- A mapping whose JSON tells it whole is read back from it. Its two
properties are used here: with finite values `toJson` writes the fields as
they stand, and without nulls it leaves none of the additional ones out. -/
theorem Lossless.ofJson_toJson {m : TypeMapping} (h : m.Lossless) : ofJson m.toJson = .valid m := by
  rw [toJson_eq_of_allFinite h.finite]
  exact ofFields_eq_valid_iff.mpr (h.readFrom_setFields h.set)

end SchemaTypes.TypeMapping

/-! ### Properties -/

namespace SchemaTypes.Property

open Json

/-- The fields of a property, null for what its JSON leaves out. -/
def allFields (p : Property) : List (String × Json) :=
  [("name", .str p.name), ("type", p.type.toJson), ("primary", onOrNull p.primary),
   ("description", strOrNull p.description), ("sqlDef", strOrNull p.sqlDef),
   ("optional", onOrNull p.optional), ("hasDefault", onOrNull p.hasDefault),
   ("isArray", onOrNull p.isArray), ("arrayDimensions", countOrNull p.arrayDimensions)]

/-- A flag is left out if it is off. The encoder does so by writing no
field, `allFields` by writing null. -/
theorem dropNulls_flag (key : String) (on : Bool) :
    dropNulls (flag key on) = dropNulls [(key, onOrNull on)] := by
  cases on <;> rfl

/-- The JSON of a property has those of `allFields` that are not null. The
encoder leaves fields out in three different ways, and this equation brings
them into one form. -/
theorem toJson_eq (p : Property) : p.toJson = .obj (dropNulls p.allFields) := by
  have hdimensions : dropNulls (if p.arrayDimensions = 0 then []
        else [("arrayDimensions", .int p.arrayDimensions)]) =
      dropNulls [("arrayDimensions", countOrNull p.arrayDimensions)] := by
    cases p.arrayDimensions <;> rfl
  unfold toJson fieldsWith
  simp only [dropNulls_append, dropNulls_flag, hdimensions]
  simp only [← dropNulls_append]
  rfl

/-- The nine fields of a property, `allFields`, have different names. -/
theorem namedOnce_allFields (p : Property) : NamedOnce p.allFields := by
  show ["name", "type", "primary", "description", "sqlDef", "optional", "hasDefault", "isArray",
    "arrayDimensions"].Nodup
  decide

/-- Fields from which every part of a property is decoded. -/
structure ReadFrom (fields : List (String × Json)) (p : Property) : Prop where
  name : required fields "name" checkText = .valid p.name
  type : required fields "type" TypeMapping.ofJson = .valid p.type
  primary : Json.optional fields "primary" false checkSwitch = .valid p.primary
  description : Json.optional fields "description" none checkTextOrNull = .valid p.description
  sqlDef : optionalEither fields "sqlDef" "sql_def" none checkTextOrNull = .valid p.sqlDef
  optional : Json.optional fields "optional" false checkSwitch = .valid p.optional
  hasDefault : optionalEither fields "hasDefault" "has_default" false checkSwitch =
    .valid p.hasDefault
  isArray : optionalEither fields "isArray" "is_array" false checkSwitch = .valid p.isArray
  arrayDimensions : optionalEither fields "arrayDimensions" "array_dimensions" 0 checkNatural =
    .valid p.arrayDimensions

/-- If every part of a property is decoded from some fields, as `ReadFrom`
says, the property is. -/
theorem ReadFrom.ofFields_eq {fields : List (String × Json)} {p : Property}
    (h : ReadFrom fields p) : ofFields fields = .valid p := by
  rw [ofFields, h.name, h.type, h.primary, h.description, h.sqlDef, h.optional, h.hasDefault,
    h.isArray, h.arrayDimensions]
  rfl

/-- Every part of a property is decoded from what `dropNulls` leaves of its
fields. The part that can go wrong is its mapping, hence the hypothesis. -/
theorem readFrom_allFields {p : Property} (h : p.type.Lossless) :
    ReadFrom (dropNulls p.allFields) p :=
  have honce := p.namedOnce_allFields
  { name := required_dropNulls honce rfl nofun rfl
    type := required_dropNulls honce rfl nofun h.ofJson_toJson
    primary := optionalEither_dropNulls honce rfl (.inl rfl) (restores_onOrNull _)
    description := optionalEither_dropNulls honce rfl (.inl rfl) (restores_strOrNull _)
    sqlDef := optionalEither_dropNulls honce rfl (.inr rfl) (restores_strOrNull _)
    optional := optionalEither_dropNulls honce rfl (.inl rfl) (restores_onOrNull _)
    hasDefault := optionalEither_dropNulls honce rfl (.inr rfl) (restores_onOrNull _)
    isArray := optionalEither_dropNulls honce rfl (.inr rfl) (restores_onOrNull _)
    arrayDimensions := optionalEither_dropNulls honce rfl (.inr rfl) (restores_countOrNull _) }

/-- A property is read back from its JSON if its mapping is `Lossless`,
whatever its texts, flags and dimensions are. -/
theorem ofJson_toJson {p : Property} (h : p.type.Lossless) : ofJson p.toJson = .valid p := by
  rw [toJson_eq]
  exact (readFrom_allFields h).ofFields_eq

end SchemaTypes.Property

/-! ### Types -/

namespace SchemaTypes.TypeDef

open Json

/-- The fields of a type, null for what its JSON leaves out. -/
def allFields (t : TypeDef) : List (String × Json) :=
  t.headFields ++ [("props", itemsOrNull (t.props.map Property.toJson))]

/-- The JSON of a type has those of `allFields` that are not null, and its
properties only if there are any. -/
theorem toJson_eq (t : TypeDef) : t.toJson = .obj (dropNulls t.allFields) := by
  have hprops : (if t.props.isEmpty then [] else [("props", .arr (t.props.map Property.toJson))]) =
      dropNulls [("props", itemsOrNull (t.props.map Property.toJson))] := by
    cases t.props <;> rfl
  rw [toJson, toJsonWith, hprops, ← dropNulls_append]
  rfl

/-- The eight fields of a type, `allFields`, have different names. -/
theorem namedOnce_allFields (t : TypeDef) : NamedOnce t.allFields := by
  show ["name", "description", "kind", "primaryKey", "insertFor", "sqlTable", "sqlSchema",
    "props"].Nodup
  decide

/-- Each kind of type is known to `checkKind` by the word that is written
for it. -/
theorem checkKind_text (kind : TypeKind) : checkKind (.str kind.text) = .valid kind := by
  cases kind <;> rfl

/-- Fields from which every part of a type is decoded. -/
structure ReadFrom (fields : List (String × Json)) (t : TypeDef) : Prop where
  name : required fields "name" checkText = .valid t.name
  description : Json.optional fields "description" none checkTextOrNull = .valid t.description
  kind : required fields "kind" checkKind = .valid t.kind
  primaryKey : optionalEither fields "primaryKey" "primary_key" none checkTextOrNull =
    .valid t.primaryKey
  insertFor : optionalEither fields "insertFor" "insert_for" none checkTextOrNull =
    .valid t.insertFor
  sqlTable : optionalEither fields "sqlTable" "sql_table" none checkTextOrNull = .valid t.sqlTable
  sqlSchema : optionalEither fields "sqlSchema" "sql_schema" none checkTextOrNull =
    .valid t.sqlSchema
  props : Json.optional fields "props" [] (checkList Property.ofJson) = .valid t.props

/-- If every part of a type is decoded from some fields, as `ReadFrom` says,
the type is. -/
theorem ReadFrom.ofFields_eq {fields : List (String × Json)} {t : TypeDef}
    (h : ReadFrom fields t) : ofFields fields = .valid t := by
  rw [ofFields, h.name, h.description, h.kind, h.primaryKey, h.insertFor, h.sqlTable, h.sqlSchema,
    h.props]
  rfl

/-- Every part of a type is decoded from what is written for it, the
properties by `Property.ofJson_toJson` one by one. -/
theorem readFrom_allFields {t : TypeDef} (h : ∀ p ∈ t.props, p.type.Lossless) :
    ReadFrom (dropNulls t.allFields) t :=
  have honce := t.namedOnce_allFields
  { name := required_dropNulls honce rfl nofun rfl
    description := optionalEither_dropNulls honce rfl (.inl rfl) (restores_strOrNull _)
    kind := required_dropNulls honce rfl nofun (checkKind_text _)
    primaryKey := optionalEither_dropNulls honce rfl (.inr rfl) (restores_strOrNull _)
    insertFor := optionalEither_dropNulls honce rfl (.inr rfl) (restores_strOrNull _)
    sqlTable := optionalEither_dropNulls honce rfl (.inr rfl) (restores_strOrNull _)
    sqlSchema := optionalEither_dropNulls honce rfl (.inr rfl) (restores_strOrNull _)
    props := optionalEither_dropNulls honce rfl (.inl rfl)
      (restores_itemsOrNull fun p hp => Property.ofJson_toJson (h p hp)) }

/-- A type is read back from its JSON if the mappings of its properties are
`Lossless`. -/
theorem ofJson_toJson {t : TypeDef} (h : ∀ p ∈ t.props, p.type.Lossless) :
    ofJson t.toJson = .valid t := by
  rw [toJson_eq]
  exact (readFrom_allFields h).ofFields_eq

end SchemaTypes.TypeDef

/-! ### Records -/

namespace SchemaTypes.TypeRecord

open Json

/-- The record with its type read back from the JSON of the type. -/
def rebuilt (r : TypeRecord) : Checked TypeRecord :=
  (fun typeDef => { r with typeDef }) <$> TypeDef.ofJson r.typeDef.toJson

/-- A record whose type is read back is `rebuilt` as it was, since all else
in it is kept. -/
theorem rebuilt_eq {r : TypeRecord} (h : TypeDef.ofJson r.typeDef.toJson = .valid r.typeDef) :
    r.rebuilt = .valid r := by
  rw [rebuilt, h]
  rfl

/-- **A type is read back from its JSON.** Take a type of either kind with
any texts, flags and dimensions, whose mappings are lossless. Decoding its
JSON succeeds and gives the type itself. Hence a record of the type can be
rebuilt, and it may take the place of the record in any model: every
artifact stays the same text. -/
theorem rebuilt_renders_alike (t : TypeDef) (h : ∀ p ∈ t.props, p.type.Lossless) :
    TypeDef.ofJson t.toJson = .valid t ∧
      ∀ r : TypeRecord, r.typeDef = t → ∃ r', r.rebuilt = .valid r' ∧
        ∀ (c : Compiled) (before after : List TypeRecord),
          c.model.records = before ++ r :: after →
          ∀ kind, Compiled.render
            { c with model := { c.model with records := before ++ r' :: after } } kind =
              c.render kind := by
  have hread : TypeDef.ofJson t.toJson = .valid t := TypeDef.ofJson_toJson h
  refine ⟨hread, ?_⟩
  rintro r rfl
  refine ⟨r, rebuilt_eq hread, ?_⟩
  intro c before after hrecords kind
  rw [← hrecords]

/-- A type with an empty description and two properties. One has all flags
on, and a mapping with a number, an object and an array that holds null as
additional fields. The other has all flags off. -/
def measureType : TypeDef where
  name := "Measure"
  description := some ""
  kind := .table
  primaryKey := some "id"
  sqlTable := some "measure"
  props :=
    [{ name := "id"
       type := { name := "number"
                 ts := some "bigint"
                 extras := [("scale", .real (.finite false 3 (-1))),
                   ("unit", .obj [("name", .str "m")]), ("parts", .arr [.null, .int (-2)])] }
       primary := true
       description := some "key"
       sqlDef := some "id serial"
       optional := true
       hasDefault := true
       isArray := true
       arrayDimensions := 2 },
     { name := "note", type := { name := "string" } }]

/-- A type with additional fields of every kind that a mapping may keep has
lossless mappings, and is read back. -/
theorem rebuilt_renders_alike_measure :
    (∀ p ∈ measureType.props, p.type.Lossless) ∧
      TypeDef.ofJson measureType.toJson = .valid measureType := by
  have hunit : AllFinite (.obj [("name", .str "m")]) := .obj (by simp [AllFinite.str])
  have hparts : AllFinite (.arr [.null, .int (-2)]) :=
    .arr (by simp [AllFinite.null, AllFinite.int])
  have hlossless : ∀ p ∈ measureType.props, p.type.Lossless := by
    intro p hp
    obtain ⟨⟩ | ⟨_, ⟨⟩ | ⟨_, ⟨⟩⟩⟩ := hp
    · exact ⟨⟨by decide, by decide⟩, by simp, by simp [AllFinite.real, hunit, hparts]⟩
    · exact ⟨TypeMapping.tidy_of_extras_eq_nil rfl, nofun, nofun⟩
  exact ⟨hlossless, (rebuilt_renders_alike measureType hlossless).1⟩

end SchemaTypes.TypeRecord
