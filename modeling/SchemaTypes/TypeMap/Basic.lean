import SchemaTypes.TypeMap.Canonical
import SchemaTypes.TypeMap.Mapping

/-!
# `SchemaTypes.TypeMap.Basic`: the table of type mappings

A type map holds one mapping for each canonical type name. It starts
from the built-in table or from nothing, and grows by overrides and by
the enums that a schema declares. An override sets single fields: a field
that it does not name keeps the value it had.

Overrides are merged one entry at a time. The first entry that cannot be
merged stops the merge; the entries before it stay, so `merge` gives the
table together with the fault.
-/

set_option autoImplicit false

namespace SchemaTypes

/-- Mappings by canonical name, each name once. -/
structure TypeMap where
  entries : List (String × TypeMapping) := []
deriving Repr, Inhabited, BEq

namespace TypeMap

/-- The name under which the mapping for unknown types is kept. -/
def defaultKey : String := "_default"

/-- The mapping for unknown types where the table has none. -/
def fallback : TypeMapping := { name := "string" }

/-- A number with an integer validator. -/
def integerMapping : TypeMapping := { name := "number", zod := some "z.number().int()" }

/-- A number of any kind. -/
def numberMapping : TypeMapping := { name := "number" }

/-- A text. -/
def textMapping : TypeMapping := { name := "string" }

/-- A JSON document. -/
def documentMapping : TypeMapping :=
  { name := "json", ts := some "Record<string,any>",
    zod := some "z.record(z.string(),z.any())", convo := some "map" }

/-- The built-in table. -/
def builtin : TypeMap :=
  ⟨[(defaultKey, textMapping), ("text", textMapping), ("varchar", textMapping),
    ("char", textMapping), ("int", integerMapping), ("smallint", integerMapping),
    ("bigint", integerMapping), ("serial", integerMapping), ("smallserial", integerMapping),
    ("bigserial", integerMapping), ("float", numberMapping), ("double", numberMapping),
    ("decimal", numberMapping), ("boolean", { name := "boolean" }),
    ("json", documentMapping), ("jsonb", documentMapping)]⟩

/-- The table that a run starts from. -/
def start (clear : Bool) : TypeMap :=
  if clear then ⟨[]⟩ else builtin

/-- The mapping under a canonical name. -/
def get? (m : TypeMap) (key : String) : Option TypeMapping :=
  m.entries.lookup key

/-- The table with one mapping set. -/
def set (m : TypeMap) (key : String) (mapping : TypeMapping) : TypeMap :=
  ⟨Json.setField key mapping m.entries⟩

/-- Whether a type has a mapping of its own. -/
def contains (m : TypeMap) (name : String) : Bool :=
  (m.get? (canonicalName name)).isSome

/-- The mapping of a type: its own, that for unknown types, or the
fallback. -/
def resolve (m : TypeMap) (name : String) : TypeMapping :=
  ((m.get? (canonicalName name)).orElse fun _ => m.get? defaultKey).getD fallback

/-- The mapping of an enum: its generated name, and the schema generated
for it. -/
def enumMapping (typeName : String) : TypeMapping :=
  { name := typeName, zod := some (typeName ++ "Schema") }

/-- The table with an enum registered. -/
def registerEnum (m : TypeMap) (sqlName typeName : String) : TypeMap :=
  m.set (canonicalName sqlName) (enumMapping typeName)

/-- The entries in the order of their names. -/
def snapshot (m : TypeMap) : List (String × TypeMapping) :=
  m.entries.mergeSort fun a b => a.1 ≤ b.1

/-- Why an override entry cannot be merged. -/
inductive OverrideFault where
  | notObject
  | notText
deriving Repr, DecidableEq, Inhabited

/-- The override entry at which a merge stopped. -/
structure Refusal where
  key : String
  fault : OverrideFault
deriving Repr, DecidableEq, Inhabited

/-- A mapping with the given fields set over the ones it has. -/
def override (current : Option TypeMapping) (fields : List (String × Json)) :
    Json.Checked TypeMapping :=
  TypeMapping.ofFields (Json.setFields fields ((current.map TypeMapping.setFields).getD []))

/-- The table with one override entry merged. -/
def mergeEntry (m : TypeMap) (key : String) : Json → Except OverrideFault TypeMap
  | .obj fields =>
    match override (m.get? (canonicalName key)) fields with
    | .valid mapping => .ok (m.set (canonicalName key) mapping)
    | .faulty _ => .error .notText
  | _ => .error .notObject

/-- The table with override entries merged in order, up to the first that
is refused. -/
def merge (m : TypeMap) : List (String × Json) → TypeMap × Option Refusal
  | [] => (m, none)
  | (key, value) :: rest =>
    match m.mergeEntry key value with
    | .ok next => next.merge rest
    | .error fault => (m, some ⟨key, fault⟩)

end TypeMap

end SchemaTypes
