import SchemaTypes.Text.Case

/-!
# `SchemaTypes.Sql.Dialect`: dialects of SQL

A dialect is given by name. Several spellings name one dialect, and no
name at all means Postgres. A `Dialect` is what the reading of a statement
hangs on: the quotes around names and strings, and a few rules for the
elements of a table.

There are two such records. `dialect?` gives MySQL one of its own, and all
other names that are accepted share that of Postgres: a source in one of
these dialects is read as Postgres reads it, whatever the dialect itself
would make of it. What is shown about reading is shown for every `Dialect`
record, and so for both.
-/

set_option autoImplicit false

namespace SchemaTypes.Sql

/-- The dialect that is meant when none is named. -/
def defaultDialect : String := "postgres"

/-- Other names of a dialect. -/
def dialectSpellings : List (String × String) :=
  [("postgresql", "postgres"), ("pg", "postgres"), ("psql", "postgres"), ("duck", "duckdb"),
   ("cockroach", "postgres"), ("cockroachdb", "postgres")]

/-- The names that are accepted. An accepted name is not one whose own
rules are known: all of them but `mysql` are read with the rules of
Postgres (`dialect?`). A name with settings behind it, as in
`mysql, key=value`, is not among them. -/
def dialects : List String :=
  ["", "athena", "bigquery", "clickhouse", "databricks", "dax", "doris", "dremio", "drill",
   "druid", "duckdb", "dune", "exasol", "fabric", "hive", "materialize", "mysql", "oracle",
   "postgres", "presto", "prql", "redshift", "risingwave", "snowflake", "solr", "spark",
   "spark2", "sqlite", "starrocks", "tableau", "teradata", "trino", "tsql"]

/-- The one name of a dialect. -/
def normalDialect (name : String) : String :=
  if name.isEmpty then defaultDialect
  else
    let plain := String.ofList (Text.trim (Text.lower name).toList)
    (dialectSpellings.lookup plain).getD plain

/-- What a backslash means inside a string. -/
inductive Backslash where
  /-- It is a character like any other. -/
  | plain
  /-- Before some letters it stands for a control character, before the
  marks of a pattern it is kept, and otherwise it is left out. -/
  | letters
  /-- As before letters, but it may also lead the code of a character, and
  it is kept nowhere. -/
  | codes
deriving Repr, DecidableEq, Inhabited

/-- What a dialect puts around names, strings and comments, and the phrases
that it has. -/
structure Quotes where
  names : List Char := ['"']
  texts : List Char := ['\'']
  backslash : Backslash := .plain
  /-- Whether a string may stand between dollar signs, or behind one of
  the letters that change how it is read. -/
  dollars : Bool := true
  /-- Whether `#` starts a comment. -/
  hashComments : Bool := false
  /-- The phrases that count as one word in this dialect alone. -/
  phrases : List (List String) := []
deriving Repr, DecidableEq, Inhabited

/-- What the reading of a statement hangs on. -/
structure Dialect where
  quotes : Quotes := {}
  /-- Whether the second argument of a date shift must be an interval. -/
  shiftsByInterval : Bool := false
  /-- Whether a table may list its indexes among its columns. -/
  listsIndexes : Bool := false
  /-- Whether a schema may declare types of its own. -/
  declaresTypes : Bool := true
deriving Repr, DecidableEq, Inhabited

/-- The record for a name, if the name is accepted. Only `mysql` has a
record of its own, with backquotes around names and escapes in strings;
every other name of `dialects` gets the record of Postgres, which is the
default one. -/
def dialect? (name : String) : Option Dialect :=
  let normal := normalDialect name
  if normal == "mysql" then
    some
      { quotes := ⟨['\x60'], ['\'', '"'], .letters, false, true, [["CHARACTER", "SET"]]⟩
        shiftsByInterval := true
        listsIndexes := true
        declaresTypes := false }
  else if dialects.contains normal then some {}
  else none

end SchemaTypes.Sql
