/-!
# `SchemaTypes.Sql.Grammar.Function`: the functions that are known by name

A call of a known function takes plain arguments, while the arguments of
any other may have names. Each known function has a form, under which it
appears among the elements of a table. Most forms are named after the
function without its underscores.

All names are in upper case.
-/

set_option autoImplicit false

namespace SchemaTypes.Sql.Grammar

/-- The known functions whose form has their own name. -/
def functionWords : List String :=
  ["ABS", "ACOS", "ACOSH", "ADD_MONTHS", "AND", "ANONYMOUS", "APPROX_DISTINCT", "APPROX_QUANTILE",
   "APPROX_QUANTILES", "APPROX_TOP_K", "APPROX_TOP_SUM", "ARGMAX", "ARGMIN", "ARG_MAX", "ARG_MIN",
   "ARRAY", "ARRAYS_ZIP", "ARRAY_AGG", "ARRAY_ALL", "ARRAY_ANY", "ARRAY_APPEND", "ARRAY_COMPACT",
   "ARRAY_CONCAT", "ARRAY_CONCAT_AGG", "ARRAY_CONSTRUCT_COMPACT", "ARRAY_CONTAINS",
   "ARRAY_CONTAINS_ALL", "ARRAY_DISTINCT", "ARRAY_EXCEPT", "ARRAY_FILTER", "ARRAY_FIRST",
   "ARRAY_INSERT", "ARRAY_INTERSECT", "ARRAY_LAST", "ARRAY_MAX", "ARRAY_MIN", "ARRAY_OVERLAPS",
   "ARRAY_POSITION", "ARRAY_PREPEND", "ARRAY_REMOVE", "ARRAY_REMOVE_AT", "ARRAY_REVERSE",
   "ARRAY_SIZE", "ARRAY_SLICE", "ARRAY_SORT", "ARRAY_SUM", "ARRAY_TO_STRING", "ARRAY_UNION_AGG",
   "ARRAY_UNIQUE_AGG", "ASCII", "ASIN", "ASINH", "ATAN", "ATAN2", "ATANH", "AVG", "A_I_AGG",
   "A_I_CLASSIFY", "A_I_SUMMARIZE_AGG", "BASE64_DECODE_BINARY", "BASE64_DECODE_STRING",
   "BASE64_ENCODE", "BITMAP_BIT_POSITION", "BITMAP_BUCKET_NUMBER", "BITMAP_CONSTRUCT_AGG",
   "BITMAP_COUNT", "BITMAP_OR_AGG", "BITWISE_COUNT", "BIT_LENGTH", "BOOLAND", "BOOLNOT", "BOOLOR",
   "BOOLXOR_AGG", "BYTE_LENGTH", "CASE", "CAST", "CAST_TO_STR_TYPE", "CBRT", "CEIL", "CHR",
   "COALESCE", "CODE_POINTS_TO_BYTES", "CODE_POINTS_TO_STRING", "COLLATE", "COLLATION", "COLUMNS",
   "COMBINED_AGG_FUNC", "COMBINED_PARAMETERIZED_AGG", "CONCAT", "CONCAT_WS", "CONNECT_BY_ROOT",
   "CONTAINS", "CONVERT", "CONVERT_TIMEZONE", "CONVERT_TO_CHARSET", "CORR", "COS", "COSH",
   "COSINE_DISTANCE", "COT", "COTH", "COUNT", "COUNTIF", "COUNT_IF", "COVAR_POP", "COVAR_SAMP",
   "CSC", "CSCH", "CUME_DIST", "CURRENT_ACCOUNT", "CURRENT_AVAILABLE_ROLES", "CURRENT_CATALOG",
   "CURRENT_CLIENT", "CURRENT_DATABASE", "CURRENT_DATE", "CURRENT_DATETIME", "CURRENT_ROLE",
   "CURRENT_SCHEMA", "CURRENT_SCHEMAS", "CURRENT_SESSION", "CURRENT_TIME", "CURRENT_TIMESTAMP",
   "CURRENT_TIMESTAMP_L_T_Z", "CURRENT_TIMEZONE", "CURRENT_USER", "CURRENT_VERSION",
   "CURRENT_WAREHOUSE", "DATE", "DATEDIFF", "DATEFROMPARTS", "DATETIME", "DATETIME_ADD",
   "DATETIME_DIFF", "DATETIME_SUB", "DATETIME_TRUNC", "DATE_ADD", "DATE_BIN", "DATE_DIFF",
   "DATE_FROM_PARTS", "DATE_FROM_UNIX_DATE", "DATE_STR_TO_DATE", "DATE_SUB", "DATE_TO_DI", "DAY",
   "DAYNAME", "DAYOFMONTH", "DAYOFWEEK", "DAYOFWEEK_ISO", "DAYOFYEAR", "DAY_OF_MONTH",
   "DAY_OF_WEEK", "DAY_OF_YEAR", "DECODE", "DECODE_CASE", "DEGREES", "DENSE_RANK", "DI_TO_DATE",
   "DOT_PRODUCT", "EDIT_DISTANCE", "ELT", "ENCODE", "ENCODE_UTF8", "ENDSWITH", "ENDS_WITH",
   "EQUAL_NULL", "EUCLIDEAN_DISTANCE", "EXISTS", "EXP", "EXPLODE", "EXPLODE_OUTER",
   "EXPLODING_GENERATE_SERIES", "EXTRACT", "FACTORIAL", "FARM_FINGERPRINT", "FEATURES_AT_TIME",
   "FIRST", "FIRST_VALUE", "FLATTEN", "FLOAT64", "FLOOR", "FORMAT", "FROM_BASE", "FROM_BASE32",
   "FROM_BASE64", "FROM_ISO8601_TIMESTAMP", "FROM_TIME_ZONE", "GAP_FILL", "GENERATE_DATE_ARRAY",
   "GENERATE_SERIES", "GENERATE_TIMESTAMP_ARRAY", "GETBIT", "GET_BIT", "GET_EXTRACT", "GLOB",
   "GREATEST", "GROUPING", "GROUPING_ID", "GROUP_CONCAT", "HASH_AGG", "HEX", "HEX_DECODE_STRING",
   "HEX_ENCODE", "HLL", "HOST", "HOUR", "HYPOT", "IF", "ILIKE", "INITCAP", "INLINE", "INT64",
   "ISINF", "ISNAN", "IS_ARRAY", "IS_ASCII", "IS_INF", "IS_NAN", "IS_NULL_VALUE",
   "JAROWINKLER_SIMILARITY", "JSONB_CONTAINS", "JSONB_CONTAINS_ALL_TOP_KEYS",
   "JSONB_CONTAINS_ANY_TOP_KEYS", "JSONB_DELETE_AT_PATH", "JSONB_EXISTS", "JSONB_EXTRACT",
   "JSONB_EXTRACT_SCALAR", "JSONB_OBJECT_AGG", "JSON_ARRAY", "JSON_ARRAY_AGG",
   "JSON_ARRAY_APPEND", "JSON_ARRAY_CONTAINS", "JSON_ARRAY_INSERT", "JSON_BOOL", "JSON_CAST",
   "JSON_EXISTS", "JSON_EXTRACT", "JSON_EXTRACT_ARRAY", "JSON_EXTRACT_SCALAR", "JSON_FORMAT",
   "JSON_KEYS", "JSON_KEYS_AT_DEPTH", "JSON_OBJECT", "JSON_OBJECT_AGG", "JSON_REMOVE", "JSON_SET",
   "JSON_STRIP_NULLS", "JSON_TABLE", "JSON_TYPE", "JSON_VALUE_ARRAY", "JUSTIFY_DAYS",
   "JUSTIFY_HOURS", "JUSTIFY_INTERVAL", "KURTOSIS", "LAG", "LAST", "LAST_DAY", "LAST_VALUE",
   "LAX_BOOL", "LAX_FLOAT64", "LAX_INT64", "LAX_STRING", "LEAD", "LEAST", "LEFT", "LENGTH",
   "LEVENSHTEIN", "LIKE", "LIST", "LN", "LOCALTIME", "LOCALTIMESTAMP", "LOG", "LOGICAL_AND",
   "LOGICAL_OR", "LOWER", "LOWER_HEX", "MAKE_INTERVAL", "MANHATTAN_DISTANCE", "MAP", "MAP_CAT",
   "MAP_CONCAT", "MAP_CONTAINS_KEY", "MAP_DELETE", "MAP_FROM_ENTRIES", "MAP_INSERT", "MAP_KEYS",
   "MAP_PICK", "MAP_SIZE", "MATCH_AGAINST", "MAX", "MD5", "MD5_DIGEST", "MEDIAN", "MIN",
   "MINHASH", "MINUTE", "MOD", "MODE", "MONTH", "MONTHNAME", "MONTHS_BETWEEN", "NET_FUNC",
   "NEXT_DAY", "NEXT_VALUE_FOR", "NORMAL", "NORMALIZE", "NTH_VALUE", "NTILE", "NULLIF",
   "NUMBER_TO_STR", "NVL2", "OBJECT_AGG", "OBJECT_ID", "OBJECT_INSERT", "OBJECT_TRANSFORM",
   "OPEN_JSON", "OR", "OVERLAY", "PAD", "PARAMETERIZED_AGG", "PARSE_BIGNUMERIC", "PARSE_DATETIME",
   "PARSE_IP", "PARSE_JSON", "PARSE_NUMERIC", "PARSE_TIME", "PARSE_URL", "PERCENTILE_CONT",
   "PERCENTILE_DISC", "PERCENT_RANK", "PI", "POSEXPLODE", "POSEXPLODE_OUTER", "POW", "PREDICT",
   "PREVIOUS_DAY", "QUANTILE", "QUARTER", "RADIANS", "RAND", "RANDN", "RANDSTR", "RANGE_BUCKET",
   "RANGE_N", "RANK", "READ_CSV", "READ_PARQUET", "REDUCE", "REGEXP_COUNT", "REGEXP_EXTRACT",
   "REGEXP_EXTRACT_ALL", "REGEXP_FULL_MATCH", "REGEXP_ILIKE", "REGEXP_INSTR", "REGEXP_I_LIKE",
   "REGEXP_LIKE", "REGEXP_REPLACE", "REGEXP_SPLIT", "REGR_AVGX", "REGR_AVGY", "REGR_COUNT",
   "REGR_INTERCEPT", "REGR_R2", "REGR_SLOPE", "REGR_SXX", "REGR_SXY", "REGR_SYY", "REGR_VALX",
   "REGR_VALY", "REG_DOMAIN", "REPEAT", "REPLACE", "REVERSE", "RIGHT", "ROUND", "ROW_NUMBER",
   "RTRIMMED_LENGTH", "SAFE_ADD", "SAFE_CONVERT_BYTES_TO_STRING", "SAFE_DIVIDE", "SAFE_MULTIPLY",
   "SAFE_NEGATE", "SAFE_SUBTRACT", "SCOPE_RESOLUTION", "SEC", "SECH", "SECOND", "SEQ1", "SEQ2",
   "SEQ4", "SEQ8", "SESSION_USER", "SHA", "SHA1_DIGEST", "SHA2", "SHA2_DIGEST", "SIGN", "SIN",
   "SINH", "SKEWNESS", "SORT_ARRAY", "SOUNDEX", "SOUNDEX_P123", "SPACE", "SPLIT", "SPLIT_PART",
   "SQRT", "STANDARD_HASH", "STARTSWITH", "STARTS_WITH", "STAR_MAP", "STDDEV", "STDDEV_POP",
   "STDDEV_SAMP", "STRING", "STRING_TO_ARRAY", "STRTOK", "STRUCT", "STRUCT_EXTRACT",
   "STR_POSITION", "STR_TO_DATE", "STR_TO_MAP", "STR_TO_TIME", "STR_TO_UNIX", "STUFF",
   "ST_DISTANCE", "ST_POINT", "SUBSTRING", "SUBSTRING_INDEX", "SUM", "TAN", "TANH", "TIME",
   "TIMEFROMPARTS", "TIMESTAMP", "TIMESTAMPDIFF", "TIMESTAMPFROMPARTS", "TIMESTAMPLTZFROMPARTS",
   "TIMESTAMPTZFROMPARTS", "TIMESTAMP_ADD", "TIMESTAMP_DIFF", "TIMESTAMP_FROM_PARTS",
   "TIMESTAMP_LTZ_FROM_PARTS", "TIMESTAMP_SUB", "TIMESTAMP_TRUNC", "TIMESTAMP_TZ_FROM_PARTS",
   "TIME_ADD", "TIME_DIFF", "TIME_FROM_PARTS", "TIME_SLICE", "TIME_STR_TO_DATE",
   "TIME_STR_TO_TIME", "TIME_STR_TO_UNIX", "TIME_SUB", "TIME_TO_STR", "TIME_TO_UNIX",
   "TIME_TRUNC", "TO_ARRAY", "TO_BASE32", "TO_BASE64", "TO_BINARY", "TO_BOOLEAN",
   "TO_CODE_POINTS", "TO_DAYS", "TO_DOUBLE", "TO_FILE", "TO_MAP", "TO_NUMBER", "TRANSFORM",
   "TRANSLATE", "TRIM", "TRY", "TRY_BASE64_DECODE_BINARY", "TRY_CAST", "TRY_HEX_DECODE_STRING",
   "TRY_TO_DECFLOAT", "TS_OR_DI_TO_DI", "TS_OR_DS_ADD", "TS_OR_DS_DIFF", "TS_OR_DS_TO_DATE",
   "TS_OR_DS_TO_DATETIME", "TS_OR_DS_TO_TIME", "TS_OR_DS_TO_TIMESTAMP", "TYPEOF", "UNHEX",
   "UNICODE", "UNIFORM", "UNIX_DATE", "UNIX_MICROS", "UNIX_MILLIS", "UNIX_SECONDS", "UNIX_TO_STR",
   "UNIX_TO_TIME", "UNIX_TO_TIME_STR", "UPPER", "UTC_DATE", "UTC_TIME", "UTC_TIMESTAMP", "UUID",
   "VARIANCE", "VARIANCE_POP", "VAR_MAP", "VECTOR_SEARCH", "VERIFY_HASH", "WEEK", "WEEKOFYEAR",
   "WEEK_OF_YEAR", "WEEK_START", "WIDTH_BUCKET", "XMLELEMENT", "XMLGET", "XMLTABLE",
   "XML_ELEMENT", "XML_TABLE", "XOR", "YEAR", "YEAR_OF_WEEK", "YEAR_OF_WEEK_ISO", "ZIPF"]

/-- The other known functions, with the names of their forms. -/
def functionSpellings : List (String × String) :=
  [("APPROX_COUNT_DISTINCT", "approxdistinct"), ("ARRAY_CAT", "arrayconcat"),
   ("ARRAY_HAS", "arraycontains"), ("ARRAY_HAS_ALL", "arraycontainsall"),
   ("ARRAY_INTERSECTION", "arrayintersect"), ("ARRAY_JOIN", "arraytostring"),
   ("ARRAY_LENGTH", "arraysize"), ("BIT_AND", "bitwiseandagg"), ("BIT_OR", "bitwiseoragg"),
   ("BIT_XOR", "bitwisexoragg"), ("BOOLAND_AGG", "logicaland"), ("BOOLOR_AGG", "logicalor"),
   ("BOOL_AND", "logicaland"), ("BOOL_OR", "logicalor"), ("CEILING", "ceil"), ("CHAR", "chr"),
   ("CHARACTER_LENGTH", "length"), ("CHARINDEX", "strposition"), ("CHAR_LENGTH", "length"),
   ("DATE_TO_DATE_STR", "cast"), ("DATE_TRUNC", "timestamptrunc"), ("DIV", "cast"),
   ("FARMFINGERPRINT64", "farmfingerprint"), ("FILTER", "arrayfilter"), ("FROM_HEX", "unhex"),
   ("GENERATE_UUID", "uuid"), ("GEN_RANDOM_UUID", "uuid"), ("IFNULL", "coalesce"), ("IIF", "if"),
   ("INSERT", "stuff"), ("INSTR", "strposition"), ("ISODOW", "dayofweekiso"),
   ("JSON_EXTRACT_PATH", "jsonextract"), ("JSON_EXTRACT_PATH_TEXT", "jsonextractscalar"),
   ("JSON_PARSE", "parsejson"), ("LAST_DAY_OF_MONTH", "lastday"), ("LCASE", "lower"),
   ("LEFTPAD", "pad"), ("LEN", "length"), ("LEVENSHTEIN_LESS_EQUAL", "levenshtein"),
   ("LOCATE", "strposition"), ("LOG10", "log"),
   ("LOG2", "log"), ("LPAD", "pad"), ("LTRIM", "trim"), ("MAKE_TIME", "timefromparts"),
   ("MAKE_TIMESTAMP", "timestampfromparts"), ("MAX_BY", "argmax"), ("MIN_BY", "argmin"),
   ("NOW", "currenttimestamp"), ("NVL", "coalesce"), ("POWER", "pow"), ("RANDOM", "rand"),
   ("RIGHTPAD", "pad"), ("RPAD", "pad"), ("RTRIM", "trim"), ("SHA1", "sha"), ("SHA256", "sha2"),
   ("SHA384", "sha2"), ("SHA512", "sha2"), ("SIGNUM", "sign"),
   ("SPLIT_BY_STRING", "stringtoarray"), ("STDEV", "stddev"), ("STRPOS", "strposition"),
   ("STRTOK_TO_ARRAY", "stringtoarray"), ("ST_MAKEPOINT", "stpoint"), ("SUBSTR", "substring"),
   ("TIME_TO_TIME_STR", "cast"), ("TO_CHAR", "timetostr"), ("TO_DATE", "strtodate"),
   ("TO_HEX", "hex"), ("TO_JSON", "jsonformat"), ("TO_TIMESTAMP", "strtotime"),
   ("TS_OR_DS_TO_DATE_STR", "substring"), ("UCASE", "upper"), ("UNNEST", "explode"),
   ("UUID_STRING", "uuid"), ("VARIANCE_SAMP", "variance"), ("VAR_POP", "variancepop"),
   ("VAR_SAMP", "variance")]

/-- The name of the form of a known function. -/
def functionForm? (name : String) : Option String :=
  if functionWords.contains name then
    some (String.ofList ((name.toList.filter (· != '_')).map Char.toLower))
  else functionSpellings.lookup name

/-- The forms that a number of arguments turns into others. -/
def shortForms : List ((String × Nat) × String) :=
  [(("strtotime", 1), "unixtotime")]

end SchemaTypes.Sql.Grammar
