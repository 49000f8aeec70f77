import SchemaTypes.Text.Case

/-!
# `SchemaTypes.TypeMap.Canonical`: one name for every spelling of a type

A type map is keyed by canonical names: lower case, single blanks
between words, and one name for the spellings that mean the same type.
-/

set_option autoImplicit false

namespace SchemaTypes.TypeMap

/-- Spellings with another canonical name. -/
def spellings : List (String × String) :=
  [("int4", "int"), ("integer", "int"), ("int8", "bigint"), ("int2", "smallint"),
   ("float8", "double"), ("double precision", "double"), ("float4", "float"),
   ("real", "float"), ("numeric", "decimal"), ("bool", "boolean"),
   ("timestamp with time zone", "timestamptz"), ("timestamp without time zone", "timestamp"),
   ("time with time zone", "timetz"), ("time without time zone", "time"),
   ("character varying", "varchar"), ("character", "char"),
   ("serial4", "serial"), ("serial8", "bigserial"), ("serial2", "smallserial")]

/-- A name in lower case with its words set apart by single blanks. -/
def normalName (name : String) : String :=
  let trimmed := String.ofList (Text.trim name.toList)
  String.ofList (List.intercalate [' '] (Text.words (Text.lower trimmed).toList))

/-- The canonical name of a type. -/
def canonicalName (name : String) : String :=
  let normal := normalName name
  (spellings.lookup normal).getD normal

end SchemaTypes.TypeMap
