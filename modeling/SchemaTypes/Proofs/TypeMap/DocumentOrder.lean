import SchemaTypes.Proofs.TypeMap.Reloading

/-!
# `SchemaTypes.Proofs.TypeMap.DocumentOrder`: the order of the computed type map

The listing of a table is ascending by type name. Its document is the
listing put in the order that all JSON artifacts share, and this order has
a rule for objects with a name: the field `name` comes first. The computed
type map is no such object. Its fields are types, and `name` may be one of
them: it is a type of Postgres, and an override or an enum can have that
name.

Every other rule agrees with the listing. All values are objects, so they
are in one group, and inside a group fields go by their names.
`mergeSort_fieldLe_of_nested` puts the two together, and
`type_map_ascending_iff` is the result: the document has the types of the
listing, each once, and it is ascending exactly if the table has no type
`name` or none that stands before it.
-/

set_option autoImplicit false

namespace SchemaTypes.Json

/-- Names with `name` in front of all others. -/
def nameFirst (keys : List String) : List String :=
  keys.filter (· == "name") ++ keys.filter (· != "name")

/-- Taking `name` to the front loses no key. -/
theorem perm_nameFirst (keys : List String) : (nameFirst keys).Perm keys :=
  List.filter_append_perm (· == "name") keys

/-- Ascending names stay ascending exactly if `name` was in front already,
that is, if it is missing or no other name is smaller. -/
theorem pairwise_nameFirst_iff {keys : List String} (hkeys : keys.Pairwise (· < ·)) :
    (nameFirst keys).Pairwise (· < ·) ↔ ("name" ∈ keys → ∀ key ∈ keys, "name" ≤ key) := by
  rw [nameFirst, List.pairwise_append, and_iff_right (hkeys.filter _),
    and_iff_right (hkeys.filter _)]
  simp only [List.mem_filter, beq_iff_eq, bne_iff_ne]
  constructor
  · intro h hname key hkey
    by_cases heq : key = "name"
    · exact heq ▸ String.le_refl key
    · exact String.not_lt.mp (String.lt_asymm (h "name" ⟨hname, rfl⟩ key ⟨hkey, heq⟩))
  · rintro h _ ⟨hname, rfl⟩ key ⟨hkey, hne⟩
    rcases Proofs.text_connected "name" key with hlt | heq | hgt
    · exact hlt
    · exact absurd heq.symm hne
    · exact absurd hgt (String.not_lt.mpr (h hname key hkey))

section Nested

variable {fields : List (String × Json)} (hnested : ∀ field ∈ fields, field.2.isNested = true)

include hnested

/-- Of fields with nested values `name` has the first rank and all others
have the last. -/
theorem fieldRank_of_nested {field : String × Json} (hfield : field ∈ fields) :
    fieldRank field = if field.1 = "name" then 0 else 2 := by
  simp [fieldRank, hnested field hfield]

/-- Fields that are `name` alike, or alike are not, go by their names, since
their ranks are the same. -/
theorem pairwise_fieldLe_filter {p : String × Json → Bool}
    (hp : ∀ a b, p a → p b → (a.1 = "name" ↔ b.1 = "name"))
    (hkeys : fields.Pairwise fun a b => a.1 < b.1) :
    (fields.filter p).Pairwise (fun a b => fieldLe a b = true) := by
  refine (hkeys.filter p).imp_of_mem fun {a b} ha hb hlt => ?_
  obtain ⟨ha, hpa⟩ := List.mem_filter.mp ha
  obtain ⟨hb, hpb⟩ := List.mem_filter.mp hb
  rw [fieldLe_iff, fieldRank_of_nested hnested ha, fieldRank_of_nested hnested hb]
  refine Or.inr ⟨?_, String.not_lt.mp (String.lt_asymm hlt)⟩
  simp only [hp a b hpa hpb]

/-- Of fields with nested values, ascending by name, only `name` changes its
place. The result is in order and has the same fields, which leaves no
choice. -/
theorem mergeSort_fieldLe_of_nested (hkeys : fields.Pairwise fun a b => a.1 < b.1) :
    fields.mergeSort fieldLe =
      fields.filter (fun field => field.1 == "name") ++
        fields.filter (fun field => field.1 != "name") := by
  have honce : NamedOnce fields :=
    List.pairwise_map.mpr (hkeys.imp fun hlt => String.ne_of_lt hlt)
  have hperm : fields.Perm (fields.filter (fun field => field.1 == "name") ++
      fields.filter (fun field => field.1 != "name")) :=
    (List.filter_append_perm (fun field : String × Json => field.1 == "name") fields).symm
  -- The list with the name in front has the same fields, and is sorted already.
  rw [honce.mergeSort_eq hperm]
  refine List.mergeSort_of_pairwise (List.pairwise_append.mpr ⟨?_, ?_, ?_⟩)
  · exact pairwise_fieldLe_filter hnested (by simp_all) hkeys
  · exact pairwise_fieldLe_filter hnested (by simp_all) hkeys
  · intro a ha b hb
    obtain ⟨ha, haname⟩ := List.mem_filter.mp ha
    obtain ⟨hb, hbname⟩ := List.mem_filter.mp hb
    rw [fieldLe_iff, fieldRank_of_nested hnested ha, fieldRank_of_nested hnested hb,
      if_pos (eq_of_beq haname), if_neg (bne_iff_ne.mp hbname)]
    exact Or.inl Nat.two_pos

end Nested

end SchemaTypes.Json

namespace SchemaTypes.TypeMap

open Json

/-- The document of a table has the listed types with `name` in front. The
value of each type is an object, so `mergeSort_fieldLe_of_nested`
applies. -/
theorem Keyed.exists_sorted_documentFields_eq {m : TypeMap} (h : m.Keyed) :
    ∃ fields, sorted (.obj m.documentFields) = .obj fields ∧
      fields.map Prod.fst = nameFirst (m.snapshot.map Prod.fst) := by
  have hfields : sortedFields m.documentFields =
      m.snapshot.map fun entry => (entry.1, sorted entry.2.toJson) := by
    rw [sortedFields_eq_map, documentFields, List.map_map]
    rfl
  -- Every type has an object for its value, so ranks and names alone decide.
  have hnested : ∀ field ∈ sortedFields m.documentFields, field.2.isNested = true := by
    rw [hfields]
    intro field hfield
    obtain ⟨entry, -, rfl⟩ := List.mem_map.mp hfield
    simp [TypeMapping.toJson, sorted, isNested]
  have hkeys : (sortedFields m.documentFields).Pairwise fun a b => a.1 < b.1 := by
    rw [hfields, List.pairwise_map]
    exact h.pairwise_snapshot
  have hnames : m.snapshot.map Prod.fst = (sortedFields m.documentFields).map Prod.fst := by
    rw [hfields, List.map_map]
    rfl
  rw [sorted]
  refine ⟨_, rfl, ?_⟩
  rw [mergeSort_fieldLe_of_nested hnested hkeys, hnames, nameFirst, List.filter_map,
    List.filter_map, List.map_append]
  rfl

/-- The computed type map has the types of the listing, each once. They are
in the order of the listing, except that a type `name` comes first. So they
are ascending exactly if there is no type `name`, or no type that stands
before it in the listing. -/
theorem type_map_ascending_iff (clear : Bool) (changes : List Change) (model : TypeModel)
    (hmodel : model.typeMap = ((start clear).after changes).snapshot) :
    let keys := ((start clear).after changes).snapshot.map Prod.fst
    ∃ fields, Emit.typeMapPayload model = .obj fields ∧
      (fields.map Prod.fst).Perm keys ∧ (fields.map Prod.fst).Nodup ∧
      fields.map Prod.fst = nameFirst keys ∧
      ((fields.map Prod.fst).Pairwise (· < ·) ↔
        ("name" ∈ keys → ∀ key ∈ keys, "name" ≤ key)) := by
  intro keys
  have hkeyed := keyed_after clear changes
  obtain ⟨fields, hsorted, hnames⟩ := hkeyed.exists_sorted_documentFields_eq
  have hascending : keys.Pairwise (· < ·) := List.pairwise_map.mpr hkeyed.pairwise_snapshot
  have hperm : (fields.map Prod.fst).Perm keys := hnames ▸ perm_nameFirst keys
  refine ⟨fields, ?_, hperm, ?_, hnames, ?_⟩
  · rw [Emit.typeMapPayload, hmodel]
    exact hsorted
  · exact hperm.nodup_iff.mpr (hascending.imp fun hlt => String.ne_of_lt hlt)
  · rw [hnames]
    exact pairwise_nameFirst_iff hascending

/-- Overrides for `int` and for `name`, a type of Postgres. -/
def nameChanges : List Change :=
  [.merge [("int", .obj [("name", .str "number")]), ("name", .obj [("name", .str "string")])]]

/-- A model with the table that these changes lead to. -/
def nameModel : TypeModel :=
  { records := [], typeMap := ((start true).after nameChanges).snapshot, tableMap := {} }

/-- The type `name` comes first, although `int` stands before it in the
listing. -/
theorem type_map_ascending_iff_name :
    nameModel.typeMap.map Prod.fst = ["int", "name"] ∧
    ∃ fields, Emit.typeMapPayload nameModel = .obj fields ∧
      fields.map Prod.fst = ["name", "int"] ∧ ¬ (fields.map Prod.fst).Pairwise (· < ·) := by
  have hentries : ((start true).after nameChanges).entries =
      [("int", { name := "number" }), ("name", { name := "string" })] := by rfl
  have hkeys : ((start true).after nameChanges).snapshot.map Prod.fst = ["int", "name"] := by
    rw [snapshot, hentries, List.mergeSort_of_pairwise (by decide)]
    rfl
  obtain ⟨fields, hpayload, -, -, hnames, hascending⟩ :=
    type_map_ascending_iff true nameChanges nameModel rfl
  rw [hkeys] at hnames hascending
  refine ⟨hkeys, fields, hpayload, hnames, ?_⟩
  rw [hascending]
  decide

end SchemaTypes.TypeMap
