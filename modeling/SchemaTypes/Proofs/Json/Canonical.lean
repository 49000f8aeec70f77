import Mathlib.Data.List.Nodup
import Mathlib.Logic.Relation
import SchemaTypes.Proofs.Json.Order

/-!
# `SchemaTypes.Proofs.Json.Canonical`: one order for all values that differ in order only

Two values are equivalent if one becomes the other by changes of order:
the fields of an object may be moved, and so may the items of an array of
named objects, anywhere inside the value. This module shows that
`Json.sorted` picks one value out of all that are equivalent
(`sorted_canonical`). It is reached by such changes itself, it is left
alone when it is put in order again, and equivalent values lead to the
same one.

The last part has a condition, because sorting is stable: two items with
one name stay in the order in which they were found. `Throughout` says
that something holds of every value inside a value, and with it that no
array of named objects holds a name twice (`NamesApart`). That an object
holds each key once (`KeysOnce`) is said in the same way. It is no
condition on JSON values, only on the lists of fields that stand for
their objects.

One change of order keeps both conditions (`Reorders.throughout`) and the
value in order (`Reorders.sorted_eq`), by induction on where the change is
made, and so does every series of changes.
-/

set_option autoImplicit false

namespace SchemaTypes.Json

open Proofs

/-- One change of order: the fields of an object or the items of an array
of named objects are moved, in the value itself or somewhere inside. -/
inductive Reorders : Json → Json → Prop
  | fields {fields fields' : List (String × Json)} :
      fields.Perm fields' → Reorders (.obj fields) (.obj fields')
  | items {items items' : List Json} : (∀ item ∈ items, (recordName? item).isSome) →
      items.Perm items' → Reorders (.arr items) (.arr items')
  | inField (before : List (String × Json)) (key : String) (behind : List (String × Json))
      {value value' : Json} : Reorders value value' →
      Reorders (.obj (before ++ (key, value) :: behind)) (.obj (before ++ (key, value') :: behind))
  | inItem (before behind : List Json) {item item' : Json} : Reorders item item' →
      Reorders (.arr (before ++ item :: behind)) (.arr (before ++ item' :: behind))

/-- One value becomes the other by changes of order. -/
def Equivalent : Json → Json → Prop :=
  Relation.ReflTransGen Reorders

/-- The values inside a value, the value itself among them. -/
inductive Part : Json → Json → Prop
  | self (value : Json) : Part value value
  | item {items : List Json} {item part : Json} : item ∈ items → Part part item →
      Part part (.arr items)
  | field {fields : List (String × Json)} {field : String × Json} {part : Json} :
      field ∈ fields → Part part field.2 → Part part (.obj fields)

/-- Something holds of every value inside a value. -/
def Throughout (P : Json → Prop) (value : Json) : Prop :=
  ∀ part, Part part value → P part

/-- An object holds each key once. -/
def KeysOnce : Json → Prop
  | .obj fields => NamedOnce fields
  | _ => True

/-- The items of an array of named objects have different names. -/
def NamesApart : Json → Prop
  | .arr items => (∀ item ∈ items, (recordName? item).isSome) → (items.map recordName?).Nodup
  | _ => True

/-- What holds `Throughout` an array holds of the array and throughout each
item. -/
theorem throughout_arr_iff {P : Json → Prop} {items : List Json} :
    Throughout P (.arr items) ↔ P (.arr items) ∧ ∀ item ∈ items, Throughout P item := by
  constructor
  · intro h
    exact ⟨h _ (.self _), fun item hitem part hpart => h part (.item hitem hpart)⟩
  · rintro ⟨hself, hitems⟩ part hpart
    cases hpart with
    | self => exact hself
    | item hitem hpart => exact hitems _ hitem part hpart

/-- What holds `Throughout` an object holds of the object and throughout
each value. -/
theorem throughout_obj_iff {P : Json → Prop} {fields : List (String × Json)} :
    Throughout P (.obj fields) ↔
      P (.obj fields) ∧ ∀ field ∈ fields, Throughout P field.2 := by
  constructor
  · intro h
    exact ⟨h _ (.self _), fun field hfield part hpart => h part (.field hfield hpart)⟩
  · rintro ⟨hself, hfields⟩ part hpart
    cases hpart with
    | self => exact hself
    | field hfield hpart => exact hfields _ hfield part hpart

/-- A text has no parts but itself, so what holds of it holds
`Throughout`. -/
theorem throughout_str_iff {P : Json → Prop} {s : String} : Throughout P (.str s) ↔ P (.str s) := by
  constructor
  · exact fun h => h _ (.self _)
  · rintro hself part ⟨⟩
    exact hself

/-- The same as `throughout_arr_iff` with one item picked out, as a change
inside an item needs it. -/
theorem throughout_arr_append_cons_iff {P : Json → Prop} {before behind : List Json} {item : Json} :
    Throughout P (.arr (before ++ item :: behind)) ↔
      P (.arr (before ++ item :: behind)) ∧ (∀ other ∈ before, Throughout P other) ∧
        Throughout P item ∧ ∀ other ∈ behind, Throughout P other := by
  rw [throughout_arr_iff, List.forall_mem_append, List.forall_mem_cons]

/-- The same as `throughout_obj_iff` with one field picked out, as a change
inside a field needs it. -/
theorem throughout_obj_append_cons_iff {P : Json → Prop} {before behind : List (String × Json)}
    {key : String} {value : Json} :
    Throughout P (.obj (before ++ (key, value) :: behind)) ↔
      P (.obj (before ++ (key, value) :: behind)) ∧ (∀ other ∈ before, Throughout P other.2) ∧
        Throughout P value ∧ ∀ other ∈ behind, Throughout P other.2 := by
  rw [throughout_obj_iff, List.forall_mem_append, List.forall_mem_cons]

/-! ### Equivalent values -/

/-- A change of order can be taken back, by another one that `Reorders`
allows. -/
theorem Reorders.symm {v w : Json} (h : Reorders v w) : Reorders w v := by
  induction h with
  | fields hperm => exact .fields hperm.symm
  | items hnamed hperm =>
    exact .items (fun item hitem => hnamed item (hperm.mem_iff.mpr hitem)) hperm.symm
  | inField before key behind _ ih => exact .inField before key behind ih
  | inItem before behind _ ih => exact .inItem before behind ih

instance : Std.Symm Reorders :=
  ⟨fun _ _ => Reorders.symm⟩

/-- Being reached by changes of order is symmetric, since each can be taken
back by `Reorders.symm`. -/
theorem Equivalent.symm {v w : Json} (h : Equivalent v w) : Equivalent w v :=
  Relation.ReflTransGen.stdSymm.symm v w h

/-- The items of an array may be changed one after the other. The induction
goes along the items with those before them done already. -/
theorem equivalent_map_items {f : Json → Json} {items : List Json}
    (h : ∀ item ∈ items, Equivalent item (f item)) (before : List Json) :
    Equivalent (.arr (before ++ items)) (.arr (before ++ items.map f)) := by
  induction items generalizing before with
  | nil => exact .refl
  | cons item items ih =>
    obtain ⟨hitem, hitems⟩ := List.forall_mem_cons.mp h
    have hfirst : Equivalent (.arr (before ++ item :: items)) (.arr (before ++ f item :: items)) :=
      Relation.ReflTransGen.lift (fun value => Json.arr (before ++ value :: items))
        (fun _ _ => Reorders.inItem before items) _ _ hitem
    -- An item that is changed joins those before, and the rest is changed behind it.
    have hrest := ih hitems (before ++ [f item])
    rw [List.append_assoc, List.append_assoc, List.singleton_append, List.singleton_append] at hrest
    exact hfirst.trans hrest

/-- The values of an object may be changed one after the other, as in
`equivalent_map_items`. -/
theorem equivalent_map_fields {f : Json → Json} {fields : List (String × Json)}
    (h : ∀ field ∈ fields, Equivalent field.2 (f field.2)) (before : List (String × Json)) :
    Equivalent (.obj (before ++ fields))
      (.obj (before ++ fields.map fun field => (field.1, f field.2))) := by
  induction fields generalizing before with
  | nil => exact .refl
  | cons field fields ih =>
    obtain ⟨hfield, hfields⟩ := List.forall_mem_cons.mp h
    have hfirst : Equivalent (.obj (before ++ field :: fields))
        (.obj (before ++ (field.1, f field.2) :: fields)) :=
      Relation.ReflTransGen.lift (fun value => Json.obj (before ++ (field.1, value) :: fields))
        (fun _ _ => Reorders.inField before field.1 fields) _ _ hfield
    have hrest := ih hfields (before ++ [(field.1, f field.2)])
    rw [List.append_assoc, List.append_assoc, List.singleton_append, List.singleton_append] at hrest
    exact hfirst.trans hrest

/-- A value in order is reached by changes of order. First its parts are put
in order, which by `induction` are such changes, and then they are moved. -/
theorem equivalent_sorted (value : Json) : Equivalent value (sorted value) := by
  induction value using induction with
  | null | bool | int | real | str => exact .refl
  | arr items ih =>
    have hinside : Equivalent (.arr items) (.arr (items.map sorted)) := equivalent_map_items ih []
    -- Whether the items may be moved is asked when they are in order themselves.
    refine hinside.trans ?_
    rw [sorted, sortedItems_eq_map, sortItems]
    split
    next hnamed =>
      exact .single (.items (List.all_eq_true.mp hnamed) (List.mergeSort_perm _ _).symm)
    next => exact .refl
  | obj fields ih =>
    have hinside : Equivalent (.obj fields)
        (.obj (fields.map fun field => (field.1, sorted field.2))) := equivalent_map_fields ih []
    rw [sorted, sortedFields_eq_map]
    exact hinside.trans (.single (.fields (List.mergeSort_perm _ _).symm))

/-! ### What one change of order keeps -/

/-- Only an array or an object has parts to move, so `Reorders` never starts
from a text. -/
theorem Reorders.ne_str {v w : Json} (h : Reorders v w) (s : String) : v ≠ .str s := by
  cases h <;> exact Json.noConfusion

/-- A change inside a field changes no field that holds a text. The name of
an object is such a field. -/
theorem Reorders.lookup_str {before behind : List (String × Json)} {key : String}
    {value value' : Json} (h : Reorders value value') {name : String}
    (hname : lookup (before ++ (key, value) :: behind) "name" = some (.str name)) :
    lookup (before ++ (key, value') :: behind) "name" = some (.str name) := by
  unfold lookup at hname ⊢
  rw [List.lookup_append] at hname ⊢
  -- The field that is found stands before the changed one, is that one, or stands behind it.
  cases hbefore : before.lookup "name" with
  | some first =>
    rw [hbefore] at hname
    exact hname
  | none =>
    rw [hbefore, Option.none_or, List.lookup_cons] at hname
    rw [Option.none_or, List.lookup_cons]
    split at hname
    · exact absurd (Option.some.inj hname) (h.ne_str name)
    · exact hname

/-- The name of an object is the text in the field of that name. So
`recordName?` is told by one look-up. -/
theorem recordName?_obj_eq_some_iff {fields : List (String × Json)} {name : String} :
    recordName? (.obj fields) = some name ↔ lookup fields "name" = some (.str name) := by
  rw [recordName?]
  split <;> simp_all

/-- A change of order leaves the name of an object as it is. Moving fields
keeps it because names stand once, and a change inside a field by
`Reorders.lookup_str`. -/
theorem Reorders.recordName?_eq {v w : Json} (h : Reorders v w) (hkeys : KeysOnce v) :
    recordName? v = recordName? w := by
  cases h with
  | fields hperm =>
    rw [recordName?, recordName?, lookup, lookup, NamedOnce.lookup_perm hkeys hperm.symm]
  | items hnamed hperm => rfl
  | inField before key behind h =>
    -- A name is a text, and a value that can change is none, before the change or after.
    apply Option.ext
    intro name
    rw [recordName?_obj_eq_some_iff, recordName?_obj_eq_some_iff]
    exact ⟨h.lookup_str, h.symm.lookup_str⟩
  | inItem before behind h => rfl

/-- A change of order doubles no key of the value that it changes, so it
keeps `KeysOnce` at the top. -/
theorem Reorders.keysOnce {v w : Json} (h : Reorders v w) (hkeys : KeysOnce v) : KeysOnce w := by
  cases h with
  | fields hperm => exact NamedOnce.perm hkeys hperm.symm
  | inField before key behind h =>
    have hkeys : ((before ++ (key, _) :: behind).map Prod.fst).Nodup := hkeys
    show ((before ++ (key, _) :: behind).map Prod.fst).Nodup
    rw [List.map_append, List.map_cons] at hkeys ⊢
    exact hkeys
  | items | inItem => trivial

/-- Whether an array has `NamesApart` hangs on the names alone, and not on
their order. -/
theorem namesApart_arr_congr {items items' : List Json}
    (h : (items.map recordName?).Perm (items'.map recordName?)) (hapart : NamesApart (.arr items)) :
    NamesApart (.arr items') := by
  intro hnamed
  refine h.nodup_iff.mp (hapart ?_)
  intro item hitem
  obtain ⟨other, hother, heq⟩ := List.mem_map.mp (h.mem_iff.mp (List.mem_map_of_mem hitem))
  rw [← heq]
  exact hnamed other hother

/-- A change of order leaves the names of the items of an array apart. A
change inside an item keeps its name by `Reorders.recordName?_eq`. -/
theorem Reorders.namesApart {v w : Json} (h : Reorders v w) (hkeys : Throughout KeysOnce v)
    (hapart : NamesApart v) : NamesApart w := by
  cases h with
  | items _ hperm => exact namesApart_arr_congr (hperm.map _) hapart
  | @inItem before behind item item' h =>
    obtain ⟨-, -, hitem, -⟩ := throughout_arr_append_cons_iff.mp hkeys
    have hname : recordName? item = recordName? item' := h.recordName?_eq (hitem item (.self item))
    refine namesApart_arr_congr (.of_eq ?_) hapart
    rw [List.map_append, List.map_append, List.map_cons, List.map_cons, hname]
  | fields | inField => trivial

/-- What a change of order keeps of the value that it changes, it keeps of
all values inside. With `Reorders.keysOnce` and `Reorders.namesApart` for
`hP`, both conditions are carried along a series of changes. -/
theorem Reorders.throughout {P : Json → Prop}
    (hP : ∀ {v w : Json}, Reorders v w → Throughout KeysOnce v → P v → P w) {v w : Json}
    (h : Reorders v w) (hkeys : Throughout KeysOnce v) (hv : Throughout P v) : Throughout P w := by
  induction h with
  | fields hperm =>
    obtain ⟨hself, hvalues⟩ := throughout_obj_iff.mp hv
    refine throughout_obj_iff.mpr ⟨hP (.fields hperm) hkeys hself, ?_⟩
    exact fun field hfield => hvalues field (hperm.mem_iff.mpr hfield)
  | items hnamed hperm =>
    obtain ⟨hself, hitems⟩ := throughout_arr_iff.mp hv
    refine throughout_arr_iff.mpr ⟨hP (.items hnamed hperm) hkeys hself, ?_⟩
    exact fun item hitem => hitems item (hperm.mem_iff.mpr hitem)
  -- One part is changed, and the value around it changes with it.
  | inField before key behind h ih =>
    obtain ⟨hself, hbefore, hvalue, hbehind⟩ := throughout_obj_append_cons_iff.mp hv
    obtain ⟨-, -, hkeysValue, -⟩ := throughout_obj_append_cons_iff.mp hkeys
    exact throughout_obj_append_cons_iff.mpr
      ⟨hP (.inField before key behind h) hkeys hself, hbefore, ih hkeysValue hvalue, hbehind⟩
  | inItem before behind h ih =>
    obtain ⟨hself, hbefore, hitem, hbehind⟩ := throughout_arr_append_cons_iff.mp hv
    obtain ⟨-, -, hkeysItem, -⟩ := throughout_arr_append_cons_iff.mp hkeys
    exact throughout_arr_append_cons_iff.mpr
      ⟨hP (.inItem before behind h) hkeys hself, hbefore, ih hkeysItem hitem, hbehind⟩

/-! ### One value in order -/

/-- A value keeps its name when it is put in order: an object by
`NamedOnce.recordName?_sorted`, and nothing else has one. -/
theorem recordName?_sorted {value : Json} (hkeys : KeysOnce value) :
    recordName? (sorted value) = recordName? value := by
  cases value with
  | obj fields => exact NamedOnce.recordName?_sorted hkeys
  | null | bool | int | real | str | arr => rfl

/-- Named items with different names are brought by `sortItems` into one
order, whatever order they come in, because two of them never tie. -/
theorem sortItems_eq_of_perm {items items' : List Json} (hperm : items.Perm items')
    (hnamed : ∀ item ∈ items, (recordName? item).isSome) (hapart : (items.map recordName?).Nodup) :
    sortItems items = sortItems items' := by
  have hnamed' : ∀ item ∈ items', (recordName? item).isSome :=
    fun item hitem => hnamed item (hperm.mem_iff.mpr hitem)
  rw [sortItems, if_pos (List.all_eq_true.mpr hnamed), sortItems,
    if_pos (List.all_eq_true.mpr hnamed')]
  refine mergeSort_eq_of_perm (byText_trans fun item => (recordName? item).getD "")
    (byText_total fun item => (recordName? item).getD "") hperm ?_
  intro a ha b hb hab hba
  -- Items that tie have one name, and there is only one item of that name.
  refine List.inj_on_of_nodup_map hapart ha hb ?_
  obtain ⟨nameA, hA⟩ := Option.isSome_iff_exists.mp (hnamed a ha)
  obtain ⟨nameB, hB⟩ := Option.isSome_iff_exists.mp (hnamed b hb)
  rw [hA, hB] at hab hba ⊢
  exact congrArg some (String.le_antisymm (of_decide_eq_true hab) (of_decide_eq_true hba))

/-- A change of order does not change the value in order. Where fields or
items are moved sorting undoes the move (`NamedOnce.sorted_obj_eq`,
`sortItems_eq_of_perm`), and where the change lies deeper the induction
applies. -/
theorem Reorders.sorted_eq {v w : Json} (h : Reorders v w) (hkeys : Throughout KeysOnce v)
    (hapart : Throughout NamesApart v) : sorted v = sorted w := by
  induction h with
  | fields hperm =>
    have honce : NamedOnce _ := (throughout_obj_iff.mp hkeys).1
    exact (honce.sorted_obj_eq hperm.symm).symm
  | @items items items' hnamed hperm =>
    obtain ⟨-, hkeys⟩ := throughout_arr_iff.mp hkeys
    obtain ⟨hself, -⟩ := throughout_arr_iff.mp hapart
    -- Putting the items in order inside leaves their names as they are.
    have hnames : (items.map sorted).map recordName? = items.map recordName? := by
      rw [List.map_map]
      exact List.map_congr_left fun item hitem =>
        recordName?_sorted (hkeys item hitem item (.self item))
    have hnamed' : ∀ item ∈ items.map sorted, (recordName? item).isSome := by
      rw [List.forall_mem_map]
      intro item hitem
      rw [recordName?_sorted (hkeys item hitem item (.self item))]
      exact hnamed item hitem
    rw [sorted, sorted, sortedItems_eq_map, sortedItems_eq_map,
      sortItems_eq_of_perm (hperm.map sorted) hnamed' (hnames ▸ hself hnamed)]
  | inField before key behind _ ih =>
    obtain ⟨-, -, hkeys, -⟩ := throughout_obj_append_cons_iff.mp hkeys
    obtain ⟨-, -, hapart, -⟩ := throughout_obj_append_cons_iff.mp hapart
    simp only [sorted, sortedFields_eq_map, List.map_append, List.map_cons, ih hkeys hapart]
  | inItem before behind _ ih =>
    obtain ⟨-, -, hkeys, -⟩ := throughout_arr_append_cons_iff.mp hkeys
    obtain ⟨-, -, hapart, -⟩ := throughout_arr_append_cons_iff.mp hapart
    simp only [sorted, sortedItems_eq_map, List.map_append, List.map_cons, ih hkeys hapart]

/-- A series of changes of order does not change the value in order, either,
because each of them leaves names and keys apart for the next
(`Reorders.throughout`). -/
theorem Equivalent.sorted_eq {v w : Json} (h : Equivalent v w) (hkeys : Throughout KeysOnce v)
    (hapart : Throughout NamesApart v) : sorted v = sorted w := by
  have hrun : Throughout KeysOnce w ∧ Throughout NamesApart w ∧ sorted v = sorted w := by
    induction h with
    | refl => exact ⟨hkeys, hapart, rfl⟩
    | tail _ hstep ih =>
      obtain ⟨hkeys, hapart, heq⟩ := ih
      exact ⟨hstep.throughout (fun h _ => h.keysOnce) hkeys hkeys,
        hstep.throughout Reorders.namesApart hkeys hapart,
        heq.trans (hstep.sorted_eq hkeys hapart)⟩
  exact hrun.2.2

/-- **A canonical form.** Every value is equivalent to the value in order,
and putting that in order again changes nothing, not even the place of a
field. Equivalent values in which the items of every array of named
objects have different names are one and the same when put in order. -/
theorem sorted_canonical :
    (∀ v : Json, Equivalent (sorted v) v ∧ sorted (sorted v) = sorted v) ∧
      ∀ v w : Json, Equivalent v w → Throughout KeysOnce v → Throughout NamesApart v →
        sorted v = sorted w :=
  ⟨fun v => ⟨(equivalent_sorted v).symm, sorted_sorted v⟩,
    fun _ _ h hkeys hapart => h.sorted_eq hkeys hapart⟩

/-- Two tables, the second with its fields out of order. -/
def listed : Json :=
  .arr [.obj [("name", .str "b"), ("tags", .arr [.str "y", .str "x"])],
    .obj [("kind", .str "table"), ("name", .str "a")]]

/-- The same tables the other way round, with the fields of the second in
order. -/
def relisted : Json :=
  .arr [.obj [("name", .str "a"), ("kind", .str "table")],
    .obj [("name", .str "b"), ("tags", .arr [.str "y", .str "x"])]]

/-- A change inside an item and one of the whole array: both lists are one
when they are put in order. -/
theorem sorted_canonical_relisted :
    Equivalent listed relisted ∧ Throughout KeysOnce listed ∧ Throughout NamesApart listed ∧
      sorted listed = sorted relisted := by
  have hequivalent : Equivalent listed relisted :=
    .tail (.single (.inItem [_] [] (.fields (.swap _ _ []))))
      (.items (by decide) (.swap _ _ []))
  have hkeys : Throughout KeysOnce listed := by
    simp only [listed, throughout_arr_iff, throughout_obj_iff, throughout_str_iff,
      List.forall_mem_cons, List.not_mem_nil, IsEmpty.forall_iff, implies_true, KeysOnce]
    decide
  have hapart : Throughout NamesApart listed := by
    simp only [listed, throughout_arr_iff, throughout_obj_iff, throughout_str_iff,
      List.forall_mem_cons, List.not_mem_nil, IsEmpty.forall_iff, implies_true, NamesApart]
    decide
  exact ⟨hequivalent, hkeys, hapart, sorted_canonical.2 _ _ hequivalent hkeys hapart⟩

end SchemaTypes.Json
