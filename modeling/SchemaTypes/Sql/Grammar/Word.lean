/-!
# `SchemaTypes.Sql.Grammar.Word`: what words may stand for

The grammar has few words that are reserved outright. Most keywords are
also names, many are functions, and the words for types are all three.
The classes below are given by their exceptions: a word in none of the
lists is a plain word, which may be a name, a function or a type that
the schema declares.

All words are in upper case.
-/

set_option autoImplicit false

namespace SchemaTypes.Sql.Grammar

/-- The words for built-in types that stand for themselves. -/
def ownTypeWords : List String :=
  ["BIT", "BOOLEAN", "TINYINT", "SMALLINT", "MEDIUMINT", "INT", "BIGINT", "INT128", "INT256",
   "UINT", "UINT128", "UINT256", "BIGNUM", "DECIMAL", "DECFLOAT", "DECIMAL32", "DECIMAL64",
   "DECIMAL128", "DECIMAL256", "BIGDECIMAL", "DOUBLE", "CHAR", "NCHAR", "VARCHAR", "NVARCHAR",
   "BPCHAR", "TEXT", "TINYTEXT", "MEDIUMTEXT", "LONGTEXT", "BINARY", "VARBINARY", "TINYBLOB",
   "MEDIUMBLOB", "LONGBLOB", "JSON", "JSONB", "INTERVAL", "TIME", "TIMETZ", "TIMESTAMP",
   "TIMESTAMPTZ", "TIMESTAMPLTZ", "TIMESTAMPNTZ", "DATE", "DATETIME", "INT4RANGE",
   "INT4MULTIRANGE", "INT8RANGE", "INT8MULTIRANGE", "NUMRANGE", "NUMMULTIRANGE", "TSRANGE",
   "TSMULTIRANGE", "TSTZRANGE", "TSTZMULTIRANGE", "DATERANGE", "DATEMULTIRANGE", "UUID",
   "GEOGRAPHY", "GEOMETRY", "POINT", "HSTORE", "SERIAL", "SMALLSERIAL", "BIGSERIAL", "XML",
   "MONEY", "NAME", "INET", "VECTOR", "VARIANT", "OBJECT", "UNKNOWN", "NULL", "ENUM", "ARRAY",
   "LIST", "MAP", "NULLABLE", "RANGE", "STRUCT"]

/-- Other words for built-in types, with the types they mean. -/
def typeSpellings : List (String × String) :=
  [("BOOL", "BOOLEAN"), ("BYTE", "TINYINT"), ("INT1", "TINYINT"), ("INT16", "SMALLINT"),
   ("SHORT", "SMALLINT"), ("INT2", "SMALLINT"), ("INTEGER", "INT"), ("INT4", "INT"),
   ("INT32", "INT"), ("INT64", "BIGINT"), ("LONG", "BIGINT"), ("INT8", "BIGINT"),
   ("HUGEINT", "INT128"), ("UHUGEINT", "UINT128"), ("DEC", "DECIMAL"), ("NUMBER", "DECIMAL"),
   ("NUMERIC", "DECIMAL"), ("FIXED", "DECIMAL"), ("BIGNUMERIC", "BIGDECIMAL"),
   ("REAL", "FLOAT"), ("FLOAT4", "FLOAT"), ("FLOAT", "DOUBLE"), ("FLOAT8", "DOUBLE"),
   ("DOUBLE PRECISION", "DOUBLE"), ("CHARACTER", "CHAR"), ("CHARACTER VARYING", "VARCHAR"),
   ("CHAR VARYING", "VARCHAR"), ("VARCHAR2", "VARCHAR"), ("NVARCHAR2", "NVARCHAR"),
   ("STR", "TEXT"), ("STRING", "TEXT"), ("CLOB", "TEXT"), ("LONGVARCHAR", "TEXT"),
   ("BLOB", "VARBINARY"), ("BYTEA", "VARBINARY"), ("TIMESTAMP_LTZ", "TIMESTAMPLTZ"),
   ("TIMESTAMP_NTZ", "TIMESTAMPNTZ")]

/-- The words for types that have no name of their own. -/
def untypableWords : List String :=
  ["OID", "REGCLASS", "REGCOLLATION", "REGCONFIG", "REGDICTIONARY", "REGNAMESPACE", "REGOPER",
   "REGOPERATOR", "REGPROC", "REGPROCEDURE", "REGROLE", "REGTYPE", "CSTRING"]

/-- The canonical name of the built-in type that a word means. -/
def typeWord? (word : String) : Option String :=
  if ownTypeWords.contains word then some word else typeSpellings.lookup word

/-- Whether a word means a type. -/
def isTypeWord (word : String) : Bool :=
  (typeWord? word).isSome || untypableWords.contains word

/-- The types with or without a time zone. -/
def zonedTypes : List String :=
  ["TIME", "TIMETZ", "TIMESTAMP", "TIMESTAMPTZ", "TIMESTAMPLTZ", "TIMESTAMPNTZ"]

/-- The types whose arguments are types. -/
def nestedTypes : List String := ["ARRAY", "LIST", "MAP", "NULLABLE", "RANGE"]

/-- The types whose arguments are fields. -/
def fieldTypes : List String := ["STRUCT", "OBJECT"]

/-- The unsigned forms of number types. -/
def unsignedTypes : List (String × String) :=
  [("BIGINT", "UBIGINT"), ("INT", "UINT"), ("MEDIUMINT", "UMEDIUMINT"),
   ("SMALLINT", "USMALLINT"), ("TINYINT", "UTINYINT"), ("DECIMAL", "UDECIMAL"),
   ("DOUBLE", "UDOUBLE")]

/-- Keywords that cannot be names. -/
def reservedWords : List String :=
  ["SELECT", "FROM", "WHERE", "AND", "OR", "XOR", "NOT", "AS", "BETWEEN", "CREATE", "CROSS",
   "DISTINCT", "DROP", "ELSE", "EXCEPT", "FETCH", "FOR", "GLOB", "GRANT", "HAVING", "ILIKE",
   "INNER", "INSERT", "INTERSECT", "INTO", "JOIN", "LATERAL", "LIKE", "NOTNULL", "ON", "ONLY",
   "OUTER", "QUALIFY", "REGEXP", "RETURNING", "REVOKE", "RLIKE", "ROLLBACK", "TABLESAMPLE",
   "THEN", "UNCACHE", "UNION", "USING", "VALUES", "WHEN", "WITH", "ALTER", "PRIMARY KEY",
   "PARTITION BY", "PARTITIONED BY", "PARTITIONED_BY", "GROUP BY", "ORDER BY", "GROUPING SETS",
   "CLUSTER BY", "DISTRIBUTE BY", "SORT BY", "CONNECT BY", "SIMILAR TO", "SQL SECURITY"]

/-- Keywords that are names but not functions. -/
def namesOnly : List String :=
  ["ANALYZE", "ANTI", "APPLY", "ASC", "ASOF", "ATTACH", "AUTOINCREMENT", "AUTO_INCREMENT",
   "BEGIN", "CACHE", "CASE", "COLUMN", "COMMENT", "COMMIT", "CONSTRAINT", "COPY", "CUBE",
   "DATABASE", "DEFAULT", "DELETE", "DESC", "DESCRIBE", "DETACH", "END", "ESCAPE", "FALSE",
   "FOREIGN KEY", "FULL", "FUNCTION", "IN", "IS", "KEEP", "KILL", "LIMIT", "LOAD", "LOCK",
   "NAMESPACE", "NATURAL", "OPERATOR", "ORDINALITY", "OVER", "OVERLAPS", "OVERWRITE",
   "PARTITION", "PERCENT", "PIVOT", "PRAGMA", "PROCEDURE", "RECURSIVE", "REFERENCES", "ROLLUP",
   "ROWS", "SCHEMA", "SEMI", "SESSION", "SET", "SETTINGS", "TEMP", "TEMPORARY", "TRIGGER",
   "TRUE", "UNIQUE", "UNPIVOT", "UPDATE", "USE", "VIEW", "VOLATILE"]

/-- Keywords that are both names and functions. -/
def callableNames : List String :=
  ["ALL", "ANY", "COLLATE", "CURRENT_CATALOG", "CURRENT_DATE", "CURRENT_SCHEMA", "CURRENT_TIME",
   "CURRENT_TIMESTAMP", "CURRENT_USER", "EXISTS", "FILTER", "FIRST", "FORMAT", "INDEX", "ISNULL",
   "LEFT", "LOCALTIME", "LOCALTIMESTAMP", "MERGE", "NEXT", "OFFSET", "REPLACE", "RIGHT", "ROW",
   "SEQUENCE", "SESSION_USER", "SOME", "TABLE", "TRUNCATE", "UNNEST", "WINDOW", "CALL", "DECLARE",
   "DO", "EXEC", "EXECUTE", "EXPLAIN", "FILE", "INOUT", "OPTIMIZE", "OUT", "PREPARE", "REF",
   "REFRESH", "REINDEX", "RENAME", "RESET", "SHOW", "TYPE", "VACUUM", "VARIADIC"]

/-- Reserved words that are functions before a parenthesis. -/
def callableReserved : List String :=
  ["GLOB", "ILIKE", "INSERT", "LIKE", "PRIMARY KEY", "REGEXP", "RLIKE", "XOR"]

/-- Functions that are called without parentheses, with the names of their
forms. -/
def bareFunctions : List (String × String) :=
  [("CURRENT_CATALOG", "currentcatalog"), ("CURRENT_DATE", "currentdate"),
   ("CURRENT_SCHEMA", "currentschema"), ("CURRENT_TIME", "currenttime"),
   ("CURRENT_TIMESTAMP", "currenttimestamp"), ("CURRENT_USER", "currentuser"),
   ("LOCALTIME", "localtime"), ("LOCALTIMESTAMP", "localtimestamp"),
   ("SESSION_USER", "sessionuser")]

/-- Whether a word is no keyword. -/
def isPlainWord (word : String) : Bool :=
  !(reservedWords.contains word || namesOnly.contains word || callableNames.contains word ||
    isTypeWord word)

/-- Whether a word may be a name. -/
def isNameWord (word : String) : Bool :=
  !reservedWords.contains word

/-- Whether a word is a function before a parenthesis. -/
def isCallWord (word : String) : Bool :=
  callableReserved.contains word ||
    !(reservedWords.contains word || namesOnly.contains word)

/-- Names that cannot be given to a table in a query without `as`. -/
def notTableAliases : List String :=
  ["ANTI", "ASOF", "FULL", "LEFT", "LOCK", "NATURAL", "RIGHT", "SEMI", "WINDOW"]

/-- The units of an interval. -/
def intervalUnits : List String :=
  ["Y", "YY", "YYY", "YYYY", "YR", "YEAR", "YEARS", "YRS", "MM", "MON", "MONS", "MONTH", "MONTHS",
   "D", "DD", "DAY", "DAYS", "DAYOFMONTH", "DAY OF WEEK", "DAYOFWEEK", "WEEKDAY", "DOW", "DW",
   "WEEKDAY_ISO", "DOW_ISO", "DW_ISO", "DAYOFWEEK_ISO", "DAYOFWEEKISO", "DAY OF YEAR",
   "DAYOFYEAR", "DOY", "DY", "W", "WK", "WEEK", "WEEKS", "WEEKOFYEAR", "WOY", "WY", "WEEK_ISO",
   "WEEKOFYEARISO", "WEEKOFYEAR_ISO", "WEEKISO", "Q", "QTR", "QTRS", "QUARTER", "QUARTERS", "H",
   "HH", "HR", "HOUR", "HOURS", "HRS", "M", "MI", "MIN", "MINUTE", "MINUTES", "MINS", "S", "SEC",
   "SECOND", "SECONDS", "SECS", "MS", "MSEC", "MSECS", "MSECOND", "MSECONDS", "MILLISEC",
   "MILLISECS", "MILLISECON", "MILLISECOND", "MILLISECONDS", "US", "USEC", "USECS", "MICROSEC",
   "MICROSECS", "USECOND", "USECONDS", "MICROSECOND", "MICROSECONDS", "NS", "NSEC", "NANOSEC",
   "NSECOND", "NSECONDS", "NANOSECS", "NANOSECOND", "NANOSECONDS", "EPOCH", "EPOCH_SECOND",
   "EPOCH_SECONDS", "EPOCH_MILLISECOND", "EPOCH_MILLISECONDS", "EPOCH_MICROSECOND",
   "EPOCH_MICROSECONDS", "EPOCH_NANOSECOND", "EPOCH_NANOSECONDS", "TZH", "TIMEZONE_HOUR", "TZM",
   "TIMEZONE_MINUTE", "DEC", "DECS", "DECADE", "DECADES", "MIL", "MILS", "MILLENIA", "MILLENIUM",
   "MILLENNIUM", "C", "CENT", "CENTS", "CENTURY", "CENTURIES"]

end SchemaTypes.Sql.Grammar
