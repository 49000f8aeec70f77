import SchemaTypes.Generate.Failure
import SchemaTypes.Proofs.TypeMap.History

/-!
# `SchemaTypes.Proofs.TypeMap.LastWrite`: the last write to a field counts

What a history of calls leaves under a canonical name is told by the
writes to that name alone. `writes` lists them: the override entries whose
name has that canonical name, of each merge only those in front of the
first entry that is refused, and the enums registered under it.

`settled` is what a list of writes amounts to, said without a table. An
enum takes the place of everything before it, so only the writes from the
last enum on count; of these the last one to a field gives its value.

`Settles` compares the two. It is carried from one write to the next by
`Settles.set` and `settles_reset`, from there along a merge and a history,
and `last_write_counts` states it of every table that calls can lead to.
-/

set_option autoImplicit false

namespace SchemaTypes.TypeMap

open Json TypeMapping

/-! ### Writes to one mapping -/

/-- What a call writes to one mapping. -/
inductive Write where
  /-- The mapping of an enum takes the place of what was there. -/
  | reset (typeName : String)
  /-- Fields are set over the ones that are there. -/
  | set (fields : List (String × Json))

namespace Write

/-- Whether a write puts a new mapping in the place of the old one. -/
def isReset : Write → Bool
  | .reset _ => true
  | .set _ => false

/-- The fields that are written. -/
def fields : Write → List (String × Json)
  | .reset typeName => [("name", .str typeName), ("zod", .str (typeName ++ "Schema"))]
  | .set fields => fields

end Write

/-- The writes that count: those from the last reset on, or all of them if
there is none. -/
def sinceReset : List Write → List Write
  | [] => []
  | write :: later => if later.any Write.isReset then sinceReset later else write :: later

/-- The value that writes leave in a field: the last one written, where a
null stands for none, and a name is `string` if none was written. -/
def settled (writes : List Write) (field : String) : Option Json :=
  present ((lastValue field ((sinceReset writes).flatMap Write.fields)).or (unwritten field))

/-- What an override entry writes to the mapping of one name. -/
def entryWrite? (key : String) : String × Json → Option Write
  | (name, .obj fields) => if canonicalName name = key then some (.set fields) else none
  | _ => none

/-- What a call writes to the mapping of one name. Of a merge only the
entries in front of the first refused one count. -/
def Change.writes (key : String) : Change → List Write
  | .merge entries =>
    (entries.takeWhile fun entry => isMergeable entry.2).filterMap (entryWrite? key)
  | .enum sqlName typeName => if canonicalName sqlName = key then [.reset typeName] else []

/-- What several calls write to the mapping of one name, in their order. -/
def writes (key : String) (changes : List Change) : List Write :=
  changes.flatMap (Change.writes key)

/-- One more override is one more write that `sinceReset` keeps. -/
theorem sinceReset_append_set (writes : List Write) (fields : List (String × Json)) :
    sinceReset (writes ++ [.set fields]) = sinceReset writes ++ [.set fields] := by
  induction writes with
  | nil => rfl
  | cons write later ih =>
    have hany : (later ++ [Write.set fields]).any Write.isReset = later.any Write.isReset := by
      rw [List.any_append]
      exact Bool.or_false _
    rw [List.cons_append, sinceReset, sinceReset, hany, ih]
    split
    · rfl
    · rfl

/-- After a reset nothing else counts: `sinceReset` forgets what was
before. -/
theorem sinceReset_append_reset (writes : List Write) (typeName : String) :
    sinceReset (writes ++ [.reset typeName]) = [.reset typeName] := by
  induction writes with
  | nil => rfl
  | cons write later ih =>
    have hany : (later ++ [Write.reset typeName]).any Write.isReset = true := by
      rw [List.any_append]
      exact Bool.or_true _
    rw [List.cons_append, sinceReset, if_pos hany, ih]

/-! ### One write -/

/-- An entry of a table is what the writes to it amount to. -/
structure Settles (writes : List Write) (entry : Option TypeMapping) : Prop where
  absent : entry = none ↔ writes = []
  tidy : ∀ m ∈ entry, m.Tidy
  value : ∀ m ∈ entry, ∀ field, lookup m.setFields field = settled writes field

/-- An entry that nothing was written to is not there, the base case of
`Settles`. -/
theorem settles_nil : Settles [] none :=
  ⟨iff_of_true rfl rfl, nofun, nofun⟩

/-- A mapping that is there has a name, so the name that was written last
is not null, and writing on does not fall back to `string`. -/
theorem Settles.present_or {writes : List Write} {m : TypeMapping}
    (h : Settles writes (some m)) (field : String) :
    present ((lookup m.setFields field).or (unwritten field)) = settled writes field := by
  by_cases hname : field = "name"
  · subst hname
    have hwritten : lookup m.setFields "name" = some (.str m.name) := by
      rw [(h.tidy m rfl).lookup_setFields]
      rfl
    rw [← h.value m rfl, hwritten]
    rfl
  · rw [h.value m rfl, settled, unwritten, if_neg hname, Option.or_none, Option.or_none]
    cases lastValue field ((sinceReset writes).flatMap Write.fields) with
    | none => rfl
    | some value => cases value <;> rfl

/-- An override is one more write. Where it names a field its own last value
counts, elsewhere the value that the earlier writes left, as
`lookup_setFields_of_override` says. -/
theorem Settles.set {writes : List Write} {entry : Option TypeMapping} (h : Settles writes entry)
    {fields : List (String × Json)} {m : TypeMapping} (hvalid : override entry fields = .valid m) :
    Settles (writes ++ [.set fields]) (some m) := by
  refine ⟨iff_of_false nofun (by simp), ?_, ?_⟩
  · rintro _ ⟨⟩
    exact tidy_of_override h.tidy hvalid
  · rintro _ ⟨⟩ field
    rw [lookup_setFields_of_override h.tidy hvalid, settled, sinceReset_append_set,
      List.flatMap_append, lastValue_append,
      show [Write.set fields].flatMap Write.fields = fields from List.append_nil fields]
    cases lastValue field fields with
    | some value => rfl
    | none =>
      -- The entry does not name the field, which keeps what the earlier writes left.
      rw [Option.none_or, Option.none_or]
      cases entry with
      | none =>
        rw [h.absent.mp rfl]
        rfl
      | some current => exact h.present_or field

/-- A registration is a reset: the mapping of an enum, `enumMapping`, is
new, with a name and a validator and nothing of what was there before. -/
theorem settles_reset (writes : List Write) (typeName : String) :
    Settles (writes ++ [.reset typeName]) (some (enumMapping typeName)) := by
  refine ⟨iff_of_false nofun (by simp), ?_, ?_⟩
  · rintro _ ⟨⟩
    exact tidy_of_extras_eq_nil rfl
  · rintro _ ⟨⟩ field
    rw [settled, sinceReset_append_reset]
    show lookup [("name", .str typeName), ("zod", .str (typeName ++ "Schema"))] field =
      present ((lastValue field ([("name", .str typeName)] ++
        [("zod", .str (typeName ++ "Schema"))])).or (unwritten field))
    -- A field is the name, the validator, or one that an enum leaves unset.
    rw [lastValue_append, lastValue_singleton, lastValue_singleton, unwritten]
    by_cases hname : field = "name"
    · subst hname
      rfl
    · by_cases hzod : field = "zod"
      · subst hzod
        rfl
      · simp [lookup, List.lookup_cons, beq_eq_false_iff_ne.mpr hname, beq_eq_false_iff_ne.mpr hzod,
          hname, hzod]

/-! ### Merges and histories -/

section Run

variable {m : TypeMap} {history : String → List Write}
  (h : ∀ key, Settles (history key) (m.get? key))

include h

/-- An entry that `isMergeable` accepts is merged, and is one write to its
canonical name. All other names keep what they had. -/
theorem exists_mergeEntry (name : String) {value : Json} (hvalue : isMergeable value = true) :
    ∃ next, m.mergeEntry name value = .ok next ∧
      ∀ key, Settles (history key ++ (entryWrite? key (name, value)).toList) (next.get? key) := by
  cases value with
  | obj fields =>
    obtain ⟨mapping, hvalid⟩ := (exists_override_iff (h (canonicalName name)).tidy).mpr hvalue
    refine ⟨m.set (canonicalName name) mapping,
      mergeEntry_eq_ok_iff.mpr ⟨fields, mapping, rfl, hvalid, rfl⟩, fun key => ?_⟩
    rw [get?_set, entryWrite?]
    by_cases hkey : canonicalName name = key
    · subst hkey
      rw [if_pos rfl, if_pos rfl]
      exact (h _).set hvalid
    · rw [if_neg (Ne.symm hkey), if_neg hkey, Option.toList_none, List.append_nil]
      exact h key
  | _ => nomatch hvalue

/-- An entry that cannot be merged is refused whatever the table holds, as
`exists_override_iff` shows for tidy mappings. -/
theorem exists_mergeEntry_error (name : String) {value : Json}
    (hvalue : ¬ isMergeable value = true) : ∃ fault, m.mergeEntry name value = .error fault := by
  cases hentry : m.mergeEntry name value with
  | error fault => exact ⟨fault, rfl⟩
  | ok next =>
    obtain ⟨fields, mapping, rfl, hvalid, -⟩ := mergeEntry_eq_ok_iff.mp hentry
    exact absurd ((exists_override_iff (h (canonicalName name)).tidy).mp ⟨mapping, hvalid⟩) hvalue

/-- After a merge each entry is what the writes before it and those of the
merge amount to, and the merge stops at the first entry that cannot be
merged. The writes of the merge are those of the entries in front of it. By
induction on the entries, with `exists_mergeEntry` and
`exists_mergeEntry_error` for the first of them. -/
theorem merge_settles (entries : List (String × Json)) :
    (∀ key, Settles (history key ++ (Change.merge entries).writes key)
      ((m.merge entries).1.get? key)) ∧
    (m.merge entries).2.map Refusal.key =
      (entries.find? fun entry => !isMergeable entry.2).map Prod.fst := by
  induction entries generalizing m history with
  | nil =>
    refine ⟨fun key => ?_, rfl⟩
    rw [show (Change.merge []).writes key = [] from rfl, List.append_nil]
    exact h key
  | cons entry rest ih =>
    obtain ⟨name, value⟩ := entry
    by_cases hvalue : isMergeable value = true
    · -- The entry is one more write, and the rest is merged into what it leaves.
      obtain ⟨next, hnext, hsettles⟩ := exists_mergeEntry h name hvalue
      obtain ⟨hrest, hrefusal⟩ := ih hsettles
      rw [merge, hnext]
      refine ⟨fun key => ?_, ?_⟩
      · have hwrites : (Change.merge ((name, value) :: rest)).writes key =
            (entryWrite? key (name, value)).toList ++ (Change.merge rest).writes key := by
          rw [Change.writes, Change.writes, List.takeWhile_cons, if_pos hvalue, List.filterMap_cons]
          cases entryWrite? key (name, value) with
          | none => rfl
          | some write => rfl
        rw [hwrites, ← List.append_assoc]
        exact hrest key
      · rw [List.find?_cons_of_neg (by simpa using hvalue)]
        exact hrefusal
    · -- The merge stops here, and the entries from here on write nothing.
      obtain ⟨fault, hfault⟩ := exists_mergeEntry_error h name hvalue
      rw [merge, hfault]
      refine ⟨fun key => ?_, ?_⟩
      · rw [Change.writes, List.takeWhile_cons, if_neg hvalue, List.filterMap_nil, List.append_nil]
        exact h key
      · rw [List.find?_cons_of_pos (by simpa using hvalue)]
        rfl

/-- A call adds its writes to those before it, for every name: a merge by
`merge_settles`, a registration by `settles_reset`. -/
theorem apply_settles (change : Change) (key : String) :
    Settles (history key ++ change.writes key) ((m.apply change).1.get? key) := by
  cases change with
  | merge entries => exact (merge_settles h entries).1 key
  | enum sqlName typeName =>
    show Settles _ ((m.set (canonicalName sqlName) (enumMapping typeName)).get? key)
    rw [get?_set, Change.writes]
    by_cases hkey : canonicalName sqlName = key
    · subst hkey
      rw [if_pos rfl, if_pos rfl]
      exact settles_reset _ typeName
    · rw [if_neg (Ne.symm hkey), if_neg hkey, List.append_nil]
      exact h key

/-- After a history each entry is what all writes to it amount to:
`apply_settles` for one call after the other. -/
theorem after_settles (changes : List Change) (key : String) :
    Settles (history key ++ writes key changes) ((m.after changes).get? key) := by
  induction changes generalizing m history with
  | nil =>
    rw [show writes key [] = [] from rfl, List.append_nil]
    exact h key
  | cons change changes ih =>
    rw [show writes key (change :: changes) = change.writes key ++ writes key changes from rfl,
      ← List.append_assoc]
    exact ih (apply_settles h change)

end Run

/-! ### The built-in table -/

/-- The override entries that the built-in table is made of. -/
def builtinEntries : List (String × Json) :=
  builtin.entries.map fun entry => (entry.1, .obj entry.2.setFields)

/-- The calls that make the table that a run starts from. -/
def construction (clear : Bool) : List Change :=
  if clear then [] else [.merge builtinEntries]

/-- The table to start from is itself the result of a history, in which the
built-in entries are merged into an empty table. So its entries need no
treatment of their own in `settles_after`. -/
theorem start_eq_after (clear : Bool) :
    start clear = (⟨[]⟩ : TypeMap).after (construction clear) := by
  cases clear with
  | true => rfl
  | false =>
    have hknown : ∀ entry ∈ builtin.entries, entry.2.extras = [] := by decide +kernel
    have hentries : (builtin.entries.map fun entry => (entry.1, id entry.2)) = builtin.entries :=
      List.map_id _
    have hmerge := @merge_of_fresh TypeMapping TypeMapping.setFields id builtin.entries ⟨[]⟩
      (hentries.symm ▸ (keyed_start false).once) (keyed_start false).canonical
      fun entry hentry =>
        have htidy := tidy_of_extras_eq_nil (hknown entry hentry)
        ⟨htidy.namedOnce_setFields, htidy.readFrom_setFields (hknown entry hentry ▸ nofun)⟩
    rw [hentries] at hmerge
    exact congrArg Prod.fst hmerge.symm

/-- Every entry of a table that calls lead to is what the writes to it
amount to, those of the built-in table included. By `start_eq_after` this is
`after_settles` for one long history. -/
theorem settles_after (clear : Bool) (changes : List Change) (key : String) :
    Settles (writes key (construction clear ++ changes))
      (((start clear).after changes).get? key) := by
  have hstart : (start clear).after changes =
      (⟨[]⟩ : TypeMap).after (construction clear ++ changes) := by
    rw [start_eq_after]
    exact List.foldl_append.symm
  have hempty : ∀ key, Settles [] ((⟨[]⟩ : TypeMap).get? key) := fun _ => settles_nil
  rw [hstart]
  exact after_settles hempty _ key

/-- **The last write to a field counts.** Start from the built-in table or
from nothing and make any calls, refused ones included.

- A name has a mapping exactly if something was written to it. The mapping
  holds each of its fields once, and a field that is set has the last value
  written to it since the last registration of an enum under that name. A
  registration writes a name and a validator; a null means that the field
  is not set; the name is `string` if none was written.
- A further merge is refused exactly if one of its entries is no object or
  has a known field that is not a text, null being allowed for all but the
  name. It is refused for the first such entry, as an error of the
  configuration. -/
theorem last_write_counts (clear : Bool) (changes : List Change) :
    let m := (start clear).after changes
    (∀ key, (m.get? key = none ↔ writes key (construction clear ++ changes) = []) ∧
      ∀ mapping, m.get? key = some mapping → NamedOnce mapping.setFields ∧
        ∀ field, lookup mapping.setFields field =
          settled (writes key (construction clear ++ changes)) field) ∧
    ∀ entries,
      ((m.merge entries).2 = none ↔ ∀ entry ∈ entries, isMergeable entry.2 = true) ∧
      ∀ refusal, (m.merge entries).2 = some refusal →
        (entries.find? fun entry => !isMergeable entry.2).map Prod.fst = some refusal.key ∧
        ∀ source, (Failure.override source refusal).code? = some "CONFIGURATION_ERROR" := by
  intro m
  have hsettles := settles_after clear changes
  refine ⟨fun key => ⟨(hsettles key).absent, ?_⟩, fun entries => ?_⟩
  · intro mapping hmapping
    exact ⟨((hsettles key).tidy mapping hmapping).namedOnce_setFields,
      (hsettles key).value mapping hmapping⟩
  · -- A merge is refused at the first entry that cannot be merged, and only there.
    have hrefusal := (merge_settles hsettles entries).2
    refine ⟨?_, ?_⟩
    · rw [← Option.map_eq_none_iff (f := Refusal.key), hrefusal, Option.map_eq_none_iff,
        List.find?_eq_none]
      simp
    · intro refusal hsome
      rw [hsome] at hrefusal
      exact ⟨hrefusal.symm, fun _ => rfl⟩

/-- Both spellings write to one mapping, and the second does not touch the
validator that the first one gave it. -/
example :
    let mapping := ((start false).after
      [.merge [("int4", .obj [("ts", .str "Count"), ("zod", .str "z.int()")]),
        ("Integer", .obj [("ts", .str "Int")])]]).resolve "INT"
    mapping.tsType = "Int" ∧ mapping.zodType = "z.int()" := by
  decide +kernel

end SchemaTypes.TypeMap
