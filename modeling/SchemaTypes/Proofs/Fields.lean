import SchemaTypes.Json.Basic

/-!
# `SchemaTypes.Proofs.Fields`: setting a field of an ordered object

Type maps, table maps and JSON objects are lists of named fields that
`Json.setField` updates. The list may hold a name more than once, although
no update brings that about, and the order of its fields shows. What the
library asks of such a list is therefore told by one view: `fieldsAt`, the
fields of one name in their order. `fieldsAt_setField` says what an update
does to the view, and a look-up is the head of it.

The second half is about lists that hold each name once, which updates
keep that way. There a look-up is membership, setting new fields is
appending them, and dropping the fields that are null drops them from
every look-up.
-/

set_option autoImplicit false

namespace SchemaTypes.Json

variable {α : Type}

/-- The fields of one name, in their order. -/
def fieldsAt (key : String) (fields : List (String × α)) : List (String × α) :=
  fields.filter fun field => field.1 == key

/-- A field of the name in question is the first one that `fieldsAt`
shows. -/
theorem fieldsAt_cons_self (key : String) (value : α) (rest : List (String × α)) :
    fieldsAt key ((key, value) :: rest) = (key, value) :: fieldsAt key rest := by
  simp [fieldsAt]

/-- A field of another name is passed over by `fieldsAt`. -/
theorem fieldsAt_cons_of_ne {key : String} {field : String × α} (h : field.1 ≠ key)
    (rest : List (String × α)) : fieldsAt key (field :: rest) = fieldsAt key rest := by
  simp [fieldsAt, h]

/-- Setting a field by `setField` replaces the first field of that name, or
adds one, and leaves the fields of every other name as they are. -/
theorem fieldsAt_setField (key name : String) (value : α) (fields : List (String × α)) :
    fieldsAt key (setField name value fields) =
      if key = name then (name, value) :: (fieldsAt key fields).tail else fieldsAt key fields := by
  induction fields with
  | nil =>
    by_cases hkey : key = name
    · subst hkey
      rw [if_pos rfl, setField, fieldsAt_cons_self]
      rfl
    · rw [if_neg hkey, setField, fieldsAt_cons_of_ne (Ne.symm hkey)]
  | cons field rest ih =>
    unfold setField
    by_cases hname : field.1 = name
    · -- The field is found here, and the rest of the list is not looked at.
      rw [if_pos (by simpa using hname)]
      by_cases hkey : key = name
      · subst hkey
        obtain ⟨first, old⟩ := field
        obtain rfl : first = key := hname
        rw [if_pos rfl, fieldsAt_cons_self, fieldsAt_cons_self, List.tail_cons]
      · rw [if_neg hkey, fieldsAt_cons_of_ne (Ne.symm hkey),
          fieldsAt_cons_of_ne (hname ▸ Ne.symm hkey)]
    · -- The field stays, so the rest decides, unless its name is asked for and hides the rest.
      rw [if_neg (by simpa using hname)]
      by_cases hfield : field.1 = key
      · have hkey : key ≠ name := hfield ▸ hname
        obtain ⟨first, old⟩ := field
        obtain rfl : first = key := hfield
        rw [if_neg hkey, fieldsAt_cons_self, fieldsAt_cons_self, ih, if_neg hkey]
      · rw [fieldsAt_cons_of_ne hfield, fieldsAt_cons_of_ne hfield, ih]

/-- A look-up gives the first field of a name, so what is known of
`fieldsAt` is known of every look-up. -/
theorem lookup_eq_head?_fieldsAt (key : String) (fields : List (String × α)) :
    fields.lookup key = (fieldsAt key fields).head?.map Prod.snd := by
  induction fields with
  | nil => rfl
  | cons field rest ih =>
    obtain ⟨name, value⟩ := field
    by_cases hkey : name = key
    · subst hkey
      rw [List.lookup_cons_self, fieldsAt_cons_self]
      rfl
    · have hne : (key == name) = false := by simpa using Ne.symm hkey
      rw [List.lookup_cons, hne, fieldsAt_cons_of_ne hkey]
      exact ih

/-- After an update the name that was set has the new value, and every other
name has the one it had. This is `fieldsAt_setField` read at the head of the
view. -/
theorem lookup_setField (key name : String) (value : α) (fields : List (String × α)) :
    (setField name value fields).lookup key =
      if key = name then some value else fields.lookup key := by
  rw [lookup_eq_head?_fieldsAt, fieldsAt_setField, lookup_eq_head?_fieldsAt]
  split <;> rfl

/-! ### Several updates -/

/-- The value that a list of updates gives to a name: of several fields
with that name the last counts. -/
def lastValue (key : String) (updates : List (String × α)) : Option α :=
  (fieldsAt key updates).getLast?.map Prod.snd

/-- Of two lists of updates made one after the other, the second counts
where it says anything. As the law is one of `lastValue` alone, it governs a
list of overrides that is merged in parts. -/
theorem lastValue_append (key : String) (first second : List (String × α)) :
    lastValue key (first ++ second) = (lastValue key second).or (lastValue key first) := by
  unfold lastValue fieldsAt
  rw [List.filter_append, List.getLast?_append]
  cases (second.filter fun field => field.1 == key).getLast? <;> rfl

/-- One update gives a value to its own name and to no other. With
`lastValue_append` this tells the last value of any updates. -/
theorem lastValue_singleton (key name : String) (value : α) :
    lastValue key [(name, value)] = if key = name then some value else none := by
  unfold lastValue
  by_cases h : key = name
  · subst h
    rw [fieldsAt_cons_self, if_pos rfl]
    rfl
  · rw [fieldsAt_cons_of_ne (Ne.symm h), if_neg h]
    rfl

/-- A name that is only ever given one value has that value, however often
it is given. `Distinguished.traced` in the table map rests on this: several
records may write one entry, if they agree on it. -/
theorem lastValue_eq_some_of_forall {key : String} {value : α} {updates : List (String × α)}
    (hmem : (key, value) ∈ updates) (hall : ∀ other, (key, other) ∈ updates → other = value) :
    lastValue key updates = some value := by
  have hfound : (key, value) ∈ fieldsAt key updates := List.mem_filter.mpr ⟨hmem, by simp⟩
  obtain ⟨⟨name, last⟩, hlast⟩ : ∃ last, (fieldsAt key updates).getLast? = some last :=
    ⟨_, List.getLast?_eq_some_getLast (List.ne_nil_of_mem hfound)⟩
  obtain ⟨hupdate, hname⟩ := List.mem_filter.mp (List.mem_of_getLast? hlast)
  obtain rfl : name = key := eq_of_beq hname
  rw [lastValue, hlast, Option.map_some, hall last hupdate]

/-- After several updates a name has the last value given to it, or the one
it had. Every statement about the fields of a mapping goes through this
equation; nothing else about `setFields` is used for look-ups. -/
theorem lookup_setFields (key : String) (updates fields : List (String × α)) :
    (setFields updates fields).lookup key = (lastValue key updates).or (fields.lookup key) := by
  induction updates generalizing fields with
  | nil => rfl
  | cons update updates ih =>
    rw [setFields, List.foldl_cons, ← setFields, ih, lookup_setField, ← List.singleton_append,
      lastValue_append, lastValue_singleton]
    cases lastValue key updates with
    | some value => rfl
    | none => by_cases h : key = update.1 <;> simp [h]

/-! ### Each name once -/

/-- Whether a list of fields holds each name once. -/
def NamedOnce (fields : List (String × α)) : Prop :=
  (fields.map Prod.fst).Nodup

instance (fields : List (String × α)) : Decidable (NamedOnce fields) :=
  inferInstanceAs (Decidable (fields.map Prod.fst).Nodup)

/-- A look-up finds nothing exactly if the name is not there. This is how a
look-up enters statements about `NamedOnce`. -/
theorem lookup_eq_none_iff_notMem {key : String} {fields : List (String × α)} :
    fields.lookup key = none ↔ key ∉ fields.map Prod.fst := by
  rw [List.lookup_eq_none_iff, List.mem_map]
  constructor
  · rintro h ⟨field, hfield, rfl⟩
    simpa using h field hfield
  · intro h field hfield
    simp only [bne_iff_ne, ne_eq]
    rintro rfl
    exact h ⟨field, hfield, rfl⟩

/-- What a look-up finds is a field of the list. The converse needs that
names stand once (`NamedOnce.lookup_eq_some_iff`). -/
theorem mem_of_lookup_eq_some {key : String} {value : α} {fields : List (String × α)}
    (h : fields.lookup key = some value) : (key, value) ∈ fields := by
  obtain ⟨before, after, rfl, -⟩ := List.lookup_eq_some_iff.mp h
  exact List.mem_append_right _ List.mem_cons_self

/-- Where each name stands once, a look-up finds every field, so looking up
is the same as membership. This is what makes the order of such fields
irrelevant for everything that is read by name. -/
theorem NamedOnce.lookup_eq_some_iff {fields : List (String × α)} (h : NamedOnce fields)
    {key : String} {value : α} : fields.lookup key = some value ↔ (key, value) ∈ fields := by
  refine ⟨mem_of_lookup_eq_some, fun hmem => ?_⟩
  induction fields with
  | nil => nomatch hmem
  | cons field rest ih =>
    obtain ⟨name, first⟩ := field
    have hcons : name ∉ rest.map Prod.fst ∧ NamedOnce rest := List.nodup_cons.mp h
    rcases List.mem_cons.mp hmem with heq | hrest
    · obtain ⟨rfl, rfl⟩ := Prod.mk.inj heq
      exact List.lookup_cons_self
    · -- The field stands behind the first one, whose name must be another.
      have hne : key ≠ name := by
        rintro rfl
        exact hcons.1 (List.mem_map.mpr ⟨(key, value), hrest, rfl⟩)
      rw [List.lookup_cons, show (key == name) = false by simpa using hne]
      exact ih hcons.2 hrest

/-- Being `NamedOnce` does not hang on the order of the fields. -/
theorem NamedOnce.perm {fields fields' : List (String × α)} (h : NamedOnce fields)
    (hperm : fields'.Perm fields) : NamedOnce fields' :=
  (hperm.map Prod.fst).nodup_iff.mpr h

/-- A permutation of fields that stand once answers every look-up alike. By
`NamedOnce.lookup_eq_some_iff` the answers are members. -/
theorem NamedOnce.lookup_perm {fields fields' : List (String × α)} (h : NamedOnce fields)
    (hperm : fields'.Perm fields) (key : String) : fields'.lookup key = fields.lookup key := by
  apply Option.ext
  intro value
  rw [(h.perm hperm).lookup_eq_some_iff, h.lookup_eq_some_iff, hperm.mem_iff]

/-- Fields that stand once are determined, up to their order, by what is
looked up in them. This is the converse of `NamedOnce.lookup_perm`. -/
theorem NamedOnce.perm_of_lookup {fields fields' : List (String × α)} (h : NamedOnce fields)
    (h' : NamedOnce fields') (hlookup : ∀ key, fields.lookup key = fields'.lookup key) :
    fields.Perm fields' := by
  have hnodup : ∀ {fields : List (String × α)}, NamedOnce fields → fields.Nodup := fun h =>
    List.Pairwise.of_map Prod.fst (fun _ _ hne heq => hne (congrArg Prod.fst heq)) h
  refine (List.perm_ext_iff_of_nodup (hnodup h) (hnodup h')).mpr ?_
  rintro ⟨key, value⟩
  rw [← h.lookup_eq_some_iff, ← h'.lookup_eq_some_iff, hlookup]

/-- Changing the values of fields changes what is looked up in the same way.
The names stay, so the first field of a name is still the first. -/
theorem lookup_map_snd {β : Type} (f : α → β) (fields : List (String × α)) (key : String) :
    (fields.map fun field => (field.1, f field.2)).lookup key = (fields.lookup key).map f := by
  induction fields with
  | nil => rfl
  | cons field fields ih =>
    rw [List.map_cons, List.lookup_cons, List.lookup_cons, ih]
    split <;> rfl

/-- Changing the values of fields keeps them `NamedOnce`, which speaks of
the names alone. -/
theorem NamedOnce.map_snd {β : Type} {fields : List (String × α)} (h : NamedOnce fields)
    (f : α → β) : NamedOnce (fields.map fun field => (field.1, f field.2)) := by
  unfold NamedOnce at h ⊢
  rwa [List.map_map]

/-- Leaving out fields keeps the others `NamedOnce`, since a part of
different names is one of different names. -/
theorem NamedOnce.sublist {fields fields' : List (String × α)} (h : NamedOnce fields)
    (hsub : fields'.Sublist fields) : NamedOnce fields' :=
  List.Nodup.sublist (hsub.map Prod.fst) h

/-- A field's name is none of those in front of it. In this form
`setField_of_notMem` can use it, when fields are set one by one. -/
theorem NamedOnce.notMem_of_append {before behind : List (String × α)} {field : String × α}
    (h : NamedOnce (before ++ field :: behind)) : field.1 ∉ before.map Prod.fst := by
  unfold NamedOnce at h
  rw [List.map_append, List.nodup_append] at h
  exact fun hmem => h.2.2 _ hmem _ List.mem_cons_self rfl

/-- A new name is put at the end by `setField`. Reading an object field by
field therefore builds the list of its fields in the order in which they are
written. -/
theorem setField_of_notMem {name : String} {fields : List (String × α)}
    (h : name ∉ fields.map Prod.fst) (value : α) :
    setField name value fields = fields ++ [(name, value)] := by
  induction fields with
  | nil => rfl
  | cons field rest ih =>
    rw [List.map_cons, List.mem_cons, not_or] at h
    rw [setField, if_neg (by simpa using Ne.symm h.1), ih h.2]
    rfl

/-- A name that is present keeps its place, so the names stay the same. With
`setField_of_notMem` this covers both ways an update can go. -/
theorem map_fst_setField_of_mem {name : String} {fields : List (String × α)}
    (h : name ∈ fields.map Prod.fst) (value : α) :
    (setField name value fields).map Prod.fst = fields.map Prod.fst := by
  induction fields with
  | nil => nomatch h
  | cons field rest ih =>
    unfold setField
    by_cases hname : field.1 = name
    · rw [if_pos (by simpa using hname), List.map_cons, List.map_cons, hname]
    · have hrest : name ∈ rest.map Prod.fst := by
        rcases List.mem_cons.mp h with heq | hrest
        · exact absurd heq.symm hname
        · exact hrest
      rw [if_neg (by simpa using hname), List.map_cons, List.map_cons, ih hrest]

/-- Setting a field keeps the names apart: the name is one of those that
were there (`map_fst_setField_of_mem`), or a new one at the end. -/
theorem NamedOnce.setField {fields : List (String × α)} (h : NamedOnce fields) (name : String)
    (value : α) : NamedOnce (setField name value fields) := by
  unfold NamedOnce
  by_cases hname : name ∈ fields.map Prod.fst
  · rw [map_fst_setField_of_mem hname]
    exact h
  · rw [setField_of_notMem hname, List.map_append]
    exact List.nodup_append.mpr
      ⟨h, List.pairwise_singleton _ _, fun a ha b hb => by
        obtain rfl := List.mem_singleton.mp hb
        exact fun heq => hname (heq ▸ ha)⟩

/-- Several updates keep the names apart, one by one (`NamedOnce.setField`).
A list that is built by updates from nothing is of this kind. -/
theorem NamedOnce.setFields {fields : List (String × α)} (h : NamedOnce fields)
    (updates : List (String × α)) : NamedOnce (setFields updates fields) := by
  induction updates generalizing fields with
  | nil => exact h
  | cons update updates ih => exact ih (h.setField update.1 update.2)

/-- A field after `Json.setField` is the one that was set or was there
before. An invariant of all fields is kept by an update, if the new field
has it. -/
theorem mem_of_mem_setField {name : String} {value : α} {fields : List (String × α)}
    {field : String × α} (h : field ∈ Json.setField name value fields) :
    field = (name, value) ∨ field ∈ fields := by
  induction fields with
  | nil => exact Or.inl (List.mem_singleton.mp h)
  | cons first rest ih =>
    unfold Json.setField at h
    split at h
    · rcases List.mem_cons.mp h with heq | hrest
      · exact Or.inl heq
      · exact Or.inr (List.mem_cons_of_mem _ hrest)
    · rcases List.mem_cons.mp h with heq | hrest
      · exact Or.inr (heq ▸ List.mem_cons_self)
      · rcases ih hrest with heq | hmem
        · exact Or.inl heq
        · exact Or.inr (List.mem_cons_of_mem _ hmem)

/-- A field after several updates is one of the updates or was there. The
induction is on the updates, with `mem_of_mem_setField` for each. -/
theorem mem_of_mem_setFields {updates fields : List (String × α)} {field : String × α}
    (h : field ∈ Json.setFields updates fields) : field ∈ updates ∨ field ∈ fields := by
  induction updates generalizing fields with
  | nil => exact Or.inr h
  | cons update updates ih =>
    rcases ih h with hmem | hmem
    · exact Or.inl (List.mem_cons_of_mem _ hmem)
    · rcases mem_of_mem_setField hmem with heq | hmem
      · exact Or.inl (heq ▸ List.mem_cons_self)
      · exact Or.inr hmem

/-- Updates with new names are appended, in their order. Objects that are
built by `setFields` from a list of fields with different names are that
list. -/
theorem setFields_of_namedOnce {updates fields : List (String × α)}
    (h : NamedOnce (fields ++ updates)) : setFields updates fields = fields ++ updates := by
  induction updates generalizing fields with
  | nil => rw [List.append_nil]; rfl
  | cons update updates ih =>
    rw [Json.setFields, List.foldl_cons, ← Json.setFields, setField_of_notMem h.notMem_of_append]
    rw [ih (by rwa [List.append_assoc, List.singleton_append]), List.append_assoc]
    rfl

/-! ### Fields that are null -/

/-- A value that is there and is not null. -/
def present : Option Json → Option Json
  | some .null => none
  | found => found

/-- A field that is not there is not `present`, like one that is null. -/
@[simp] theorem present_none : present none = none :=
  rfl

/-- A value that is not null is `present` as it is. -/
theorem present_eq_self {found : Option Json} (h : found ≠ some .null) : present found = found := by
  unfold present
  split
  · exact absurd rfl h
  · rfl

/-- The fields that `dropNulls` leaves are those that are not null. -/
theorem mem_dropNulls {field : String × Json} {fields : List (String × Json)} :
    field ∈ dropNulls fields ↔ field ∈ fields ∧ field.2 ≠ .null := by
  unfold dropNulls
  rw [List.mem_filter]
  cases field.2 <;> simp

/-- Null fields are dropped by `dropNulls` from each part by itself. -/
theorem dropNulls_append (first second : List (String × Json)) :
    dropNulls (first ++ second) = dropNulls first ++ dropNulls second :=
  List.filter_append ..

/-- Fields none of which is null are left alone by `dropNulls`. -/
theorem dropNulls_eq_self {fields : List (String × Json)} (h : ∀ field ∈ fields, field.2 ≠ .null) :
    dropNulls fields = fields := by
  refine List.filter_eq_self.mpr fun field hfield => ?_
  have hne := h field hfield
  split
  next hnull => exact absurd hnull hne
  next => rfl

/-- Dropping null fields leaves the names apart, by `NamedOnce.sublist`. -/
theorem NamedOnce.dropNulls {fields : List (String × Json)} (h : NamedOnce fields) :
    NamedOnce (dropNulls fields) :=
  h.sublist List.filter_sublist

/-- Dropping null fields drops them from every look-up and nothing else.
Names have to stand once: a field that is dropped could otherwise uncover a
later one of its name. -/
theorem NamedOnce.lookup_dropNulls {fields : List (String × Json)} (h : NamedOnce fields)
    (key : String) : (Json.dropNulls fields).lookup key = present (fields.lookup key) := by
  apply Option.ext
  intro value
  rw [h.dropNulls.lookup_eq_some_iff, mem_dropNulls, ← h.lookup_eq_some_iff]
  -- Both sides ask for a field of this name with this value that is not null.
  unfold present
  split
  next heq =>
    rw [heq]
    refine ⟨?_, nofun⟩
    rintro ⟨hvalue, hne⟩
    exact absurd (Option.some.inj hvalue).symm hne
  next hne =>
    refine ⟨And.left, fun heq => ⟨heq, ?_⟩⟩
    rintro rfl
    exact hne heq

end SchemaTypes.Json
