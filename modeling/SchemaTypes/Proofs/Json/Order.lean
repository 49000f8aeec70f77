import SchemaTypes.Json.Order
import SchemaTypes.Proofs.Fields
import SchemaTypes.Proofs.Sorting

/-!
# `SchemaTypes.Proofs.Json.Order`: a value in order stays as it is

`Json.sorted` works from the inside out: first the values inside an object
or an array are put in order, then its fields or items are sorted. The
comparison of fields and that of named items are total preorders, so
sorting a sorted list changes nothing, and `sorted_sorted` follows by
induction over the value.

`Json.induction` is the induction that fits: it hands out the hypothesis
for every item of an array and every field of an object.

`AllFinite` singles out the values that are written without a loss, and
`Plain` those of them that a reader gives back exactly as they were: no
numbers but integers, and in an object each name once.
-/

set_option autoImplicit false

namespace SchemaTypes.Json

open Proofs

/-- Induction over a value, with the items of an array and the fields of an
object taken all at once. The recursor that comes with `Json` has a motive
for each of the nested lists, which no statement here needs. -/
@[elab_as_elim]
theorem induction {motive : Json → Prop} (null : motive .null) (bool : ∀ b, motive (.bool b))
    (int : ∀ n, motive (.int n)) (real : ∀ r, motive (.real r)) (str : ∀ s, motive (.str s))
    (arr : ∀ items, (∀ item ∈ items, motive item) → motive (.arr items))
    (obj : ∀ fields, (∀ field ∈ fields, motive field.2) → motive (.obj fields)) :
    ∀ value, motive value
  | .null => null
  | .bool b => bool b
  | .int n => int n
  | .real r => real r
  | .str s => str s
  | .arr items => arr items fun item hitem =>
    have : sizeOf item < sizeOf items := List.sizeOf_lt_of_mem hitem
    induction null bool int real str arr obj item
  | .obj fields => obj fields fun field hfield =>
    have : sizeOf field < sizeOf fields := List.sizeOf_lt_of_mem hfield
    have : sizeOf field.2 < sizeOf field := by
      rw [Prod.mk.sizeOf_spec field.1 field.2]
      omega
    induction null bool int real str arr obj field.2
termination_by value => sizeOf value

/-- A list is left as it is by a function that leaves each of its members as
it is. Values that are in order are left alone by `sorted` in this way, part
by part. -/
theorem map_eq_self {α : Type} {f : α → α} {items : List α} (h : ∀ item ∈ items, f item = item) :
    items.map f = items :=
  (List.map_congr_left h).trans (List.map_id items)

/-! ### Sorting the parts of a value -/

/-- The items of an array are put in order one by one by `sorted`. The
definition recurses on the list for the sake of its termination only. -/
theorem sortedItems_eq_map (items : List Json) : sortedItems items = items.map sorted := by
  induction items with
  | nil => rfl
  | cons item items ih => rw [sortedItems, ih, List.map_cons]

/-- The values of an object are put in order one by one, like the items of
an array (`sortedItems_eq_map`). -/
theorem sortedFields_eq_map (fields : List (String × Json)) :
    sortedFields fields = fields.map fun field => (field.1, sorted field.2) := by
  induction fields with
  | nil => rfl
  | cons field fields ih => rw [sortedFields, ih, List.map_cons]

/-- Fields are compared by their group, and by name inside a group, which is
a lexicographic comparison as in `Proofs.Sorting`. -/
theorem fieldLe_iff (a b : String × Json) :
    fieldLe a b = true ↔ lexicographic (· < ·) (fieldRank a) (fieldRank b) (a.1 ≤ b.1) := by
  simp [fieldLe, lexicographic]

/-- The comparison of fields is transitive, as `List.mergeSort` asks. -/
theorem fieldLe_trans (a b c : String × Json) (hab : fieldLe a b = true)
    (hbc : fieldLe b c = true) : fieldLe a c = true := by
  rw [fieldLe_iff] at hab hbc ⊢
  exact lexicographic_trans Nat.lt_trans String.le_trans hab hbc

/-- Of two fields one may stand in front of the other in the order
`fieldLe`. -/
theorem fieldLe_total (a b : String × Json) : (fieldLe a b || fieldLe b a) = true := by
  rw [Bool.or_eq_true, fieldLe_iff, fieldLe_iff]
  exact lexicographic_total Nat.lt_trichotomy (String.le_total a.1 b.1)

/-- Fields that `fieldLe` lets stand either way round have one name, so
fields with different names have one order only. -/
theorem fst_eq_of_fieldLe {a b : String × Json} (hab : fieldLe a b = true)
    (hba : fieldLe b a = true) : a.1 = b.1 := by
  rw [fieldLe_iff] at hab hba
  obtain ⟨-, hle, hge⟩ := lexicographic_antisymm Nat.lt_asymm hab hba
  exact String.le_antisymm hle hge

/-- Where each name stands once, sorting forgets the order of the fields,
because no two of them tie (`fst_eq_of_fieldLe`). -/
theorem NamedOnce.mergeSort_eq {fields fields' : List (String × Json)} (h : NamedOnce fields)
    (hperm : fields.Perm fields') : fields.mergeSort fieldLe = fields'.mergeSort fieldLe := by
  refine mergeSort_eq_of_perm fieldLe_trans fieldLe_total hperm ?_
  rintro ⟨key, a⟩ ha ⟨key', b⟩ hb hab hba
  obtain rfl : key = key' := fst_eq_of_fieldLe hab hba
  have heq : some a = some b :=
    (h.lookup_eq_some_iff.mpr ha).symm.trans (h.lookup_eq_some_iff.mpr hb)
  rw [Option.some.inj heq]

/-- The items that `sortItems` gives are those of the array, all of them. -/
theorem perm_sortItems (items : List Json) : (sortItems items).Perm items := by
  unfold sortItems
  split
  · exact List.mergeSort_perm items nameLe
  · exact List.Perm.refl items

/-- Items that were sorted stay where they are, or they are not all named
and `sortItems` does not sort them at all. -/
theorem sortItems_sortItems (items : List Json) :
    sortItems (sortItems items) = sortItems items := by
  have hall : (sortItems items).all (fun item => (recordName? item).isSome) =
      items.all (fun item => (recordName? item).isSome) := by
    rw [Bool.eq_iff_iff, List.all_eq_true, List.all_eq_true]
    simp only [(perm_sortItems items).mem_iff]
  rw [sortItems, hall]
  by_cases hnamed : items.all (fun item => (recordName? item).isSome) = true
  · rw [if_pos hnamed, sortItems, if_pos hnamed]
    exact List.mergeSort_of_pairwise (List.pairwise_mergeSort
      (byText_trans fun item => (recordName? item).getD "")
      (byText_total fun item => (recordName? item).getD "") items)
  · rw [if_neg hnamed]

/-- Putting a value in order twice is putting it in order once. By
`induction` the items and fields are in order already, and sorting what is
sorted changes nothing. -/
theorem sorted_sorted (value : Json) : sorted (sorted value) = sorted value := by
  induction value using induction with
  | null => rfl
  | bool b => rfl
  | int n => rfl
  | real r => rfl
  | str s => rfl
  | arr items ih =>
    -- Sorting the items only moves them, so each of them is still in order inside.
    have hitems : ∀ item ∈ sortItems (items.map sorted), sorted item = item := by
      intro item hitem
      obtain ⟨old, hold, rfl⟩ := List.mem_map.mp ((perm_sortItems _).mem_iff.mp hitem)
      exact ih old hold
    rw [sorted, sorted, sortedItems_eq_map, sortedItems_eq_map, map_eq_self hitems,
      sortItems_sortItems]
  | obj fields ih =>
    have hfields : ∀ field ∈ (sortedFields fields).mergeSort fieldLe,
        (field.1, sorted field.2) = field := by
      intro field hfield
      rw [List.mem_mergeSort, sortedFields_eq_map] at hfield
      obtain ⟨old, hold, rfl⟩ := List.mem_map.mp hfield
      exact Prod.ext rfl (ih old hold)
    rw [sorted, sorted, sortedFields_eq_map (List.mergeSort _ _), map_eq_self hfields,
      List.mergeSort_of_pairwise
        (List.pairwise_mergeSort fieldLe_trans fieldLe_total (sortedFields fields))]

/-- Where each name stands once, the order of the fields does not matter for
the object in order. This is `NamedOnce.mergeSort_eq` with the values put in
order as well. -/
theorem NamedOnce.sorted_obj_eq {fields fields' : List (String × Json)} (h : NamedOnce fields)
    (hperm : fields'.Perm fields) : sorted (.obj fields') = sorted (.obj fields) := by
  rw [sorted, sorted, sortedFields_eq_map, sortedFields_eq_map]
  exact congrArg Json.obj ((h.map_snd sorted).mergeSort_eq (hperm.map _).symm).symm

/-- A look-up in an object in order gives the value in order. It finds the
same field, because the name stands once (`NamedOnce.lookup_perm`). -/
theorem NamedOnce.lookup_sorted {fields : List (String × Json)} (h : NamedOnce fields)
    (key : String) :
    lookup ((sortedFields fields).mergeSort Json.fieldLe) key = (lookup fields key).map sorted := by
  have hsorted : NamedOnce (sortedFields fields) := by
    rw [sortedFields_eq_map]
    exact h.map_snd sorted
  show List.lookup key _ = _
  rw [hsorted.lookup_perm (List.mergeSort_perm _ _), sortedFields_eq_map, lookup_map_snd]
  rfl

/-- An object keeps its name when it is put in order: the name is a text,
and a look-up finds it still (`NamedOnce.lookup_sorted`). -/
theorem NamedOnce.recordName?_sorted {fields : List (String × Json)} (h : NamedOnce fields) :
    recordName? (sorted (.obj fields)) = recordName? (.obj fields) := by
  rw [sorted, recordName?, recordName?, h.lookup_sorted]
  -- A text is in order as it is, and nothing else becomes one.
  rcases lookup fields "name" with _ | value
  · rfl
  · cases value <;> rfl

/-- No value becomes null when it is `sorted`, and null stays null. -/
theorem sorted_eq_null_iff {value : Json} : sorted value = .null ↔ value = .null := by
  cases value <;> simp [sorted]

/-! ### Finite and plain values -/

/-- A value in which every number is finite. These are the values that a
document can hold. -/
inductive AllFinite : Json → Prop
  | null : AllFinite .null
  | bool (b : Bool) : AllFinite (.bool b)
  | int (n : Int) : AllFinite (.int n)
  | real (negative : Bool) (mantissa : Nat) (exponent : Int) :
      AllFinite (.real (.finite negative mantissa exponent))
  | str (s : String) : AllFinite (.str s)
  | arr {items : List Json} : (∀ item ∈ items, AllFinite item) → AllFinite (.arr items)
  | obj {fields : List (String × Json)} : (∀ field ∈ fields, AllFinite field.2) →
      AllFinite (.obj fields)

/-- A value without numbers other than integers, in which every object has
each of its names once. -/
inductive Plain : Json → Prop
  | null : Plain .null
  | bool (b : Bool) : Plain (.bool b)
  | int (n : Int) : Plain (.int n)
  | str (s : String) : Plain (.str s)
  | arr {items : List Json} : (∀ item ∈ items, Plain item) → Plain (.arr items)
  | obj {fields : List (String × Json)} : NamedOnce fields → (∀ field ∈ fields, Plain field.2) →
      Plain (.obj fields)

/-- Values that are `Plain` hold no numbers but integers, so all their
numbers are finite. -/
theorem Plain.allFinite {value : Json} (h : Plain value) : AllFinite value := by
  induction h with
  | null => exact .null
  | bool b => exact .bool b
  | int n => exact .int n
  | str s => exact .str s
  | arr _ ih => exact .arr ih
  | obj _ _ ih => exact .obj ih

/-- The items of an array are made `finite` one by one. -/
theorem finiteItems_eq_map (items : List Json) : finiteItems items = items.map finite := by
  induction items with
  | nil => rfl
  | cons item items ih => rw [finiteItems, ih, List.map_cons]

/-- The values of an object are made `finite` one by one. -/
theorem finiteFields_eq_map (fields : List (String × Json)) :
    finiteFields fields = fields.map fun field => (field.1, finite field.2) := by
  induction fields with
  | nil => rfl
  | cons field fields ih => rw [finiteFields, ih, List.map_cons]

/-- Where all numbers are finite, `finite` replaces none by null, so the
value is written as it is. -/
theorem AllFinite.finite_eq {value : Json} (h : AllFinite value) : finite value = value := by
  induction h with
  | null => rfl
  | bool b => rfl
  | int n => rfl
  | real negative mantissa exponent => rfl
  | str s => rfl
  | arr hitems ih => rw [finite, finiteItems_eq_map, map_eq_self ih]
  | obj hfields ih =>
    have hvalues : ∀ field ∈ _, (field.1, finite field.2) = field :=
      fun field hfield => Prod.ext rfl (ih field hfield)
    rw [finite, finiteFields_eq_map, map_eq_self hvalues]

/-- The fields of an object in order still have their names once, as they
have been moved (`NamedOnce.perm`) and changed in their values only
(`NamedOnce.map_snd`). -/
theorem NamedOnce.mergeSort_sortedFields {fields : List (String × Json)} (h : NamedOnce fields) :
    NamedOnce ((sortedFields fields).mergeSort fieldLe) := by
  refine NamedOnce.perm ?_ (List.mergeSort_perm _ _)
  rw [sortedFields_eq_map]
  exact h.map_snd sorted

/-- A value that is `Plain` is so in order. Its parts are those it had, put
in order themselves. -/
theorem Plain.sorted {value : Json} (h : Plain value) : Plain (sorted value) := by
  induction h with
  | null => exact .null
  | bool b => exact .bool b
  | int n => exact .int n
  | str s => exact .str s
  | arr hitems ih =>
    rw [Json.sorted, sortedItems_eq_map]
    refine .arr fun item hitem => ?_
    -- An item in order is one of the items, put in order itself.
    obtain ⟨old, hold, rfl⟩ := List.mem_map.mp ((perm_sortItems _).mem_iff.mp hitem)
    exact ih old hold
  | obj honce hfields ih =>
    rw [Json.sorted]
    refine .obj honce.mergeSort_sortedFields fun field hfield => ?_
    rw [List.mem_mergeSort, sortedFields_eq_map] at hfield
    obtain ⟨old, hold, rfl⟩ := List.mem_map.mp hfield
    exact ih old hold

end SchemaTypes.Json
