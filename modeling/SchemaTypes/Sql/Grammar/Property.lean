import SchemaTypes.Sql.Grammar.Constraint

/-!
# `SchemaTypes.Sql.Grammar.Property`: properties of tables

A table may have properties in front of the word for it, between its name
and its elements, and behind them. Most properties start with a word of
their own; the others are options of sequences, or a key and a value with
an equals sign between them. Properties are read only for their extent.
-/

set_option autoImplicit false

namespace SchemaTypes.Sql.Grammar

open Parse

/-- Properties of one word. -/
def flagWords : List String :=
  ["DETERMINISTIC", "DYNAMIC", "EMPTY", "EXTERNAL", "GLOBAL", "HEAP", "HYBRID", "ICEBERG",
   "IMMUTABLE", "JOURNAL", "LOG", "MATERIALIZED", "MULTISET", "SECURE", "STABLE", "STREAMING",
   "STRICT", "TEMP", "TEMPORARY", "TRANSIENT", "UNLOGGED", "VOLATILE"]

/-- Properties with a value behind them. -/
def valueWords : List String :=
  ["ALGORITHM", "AUTO_INCREMENT", "COLLATE", "COMMENT", "DISTSTYLE", "ENGINE", "EXECUTE",
   "FORMAT", "LANGUAGE", "LOCATION", "LOCK", "ROW_FORMAT", "SHARING", "USING"]

/-- All words that start a property. -/
def propertyWords : List String :=
  flagWords ++ valueWords ++
    ["ALLOWED_VALUES", "AUTO", "BACKUP", "BLOCKCOMPRESSION", "CHARACTER SET", "CHARSET",
     "CHECKSUM", "CLUSTER BY", "CLUSTERED", "CONTAINS", "COPY", "DATA_DELETION", "DATABLOCKSIZE",
     "DEFINER", "DISTKEY", "DISTRIBUTED", "DUPLICATE", "ENVIRONMENT", "FALLBACK", "FREESPACE",
     "INHERITS", "LAYOUT", "LIFETIME", "LIKE", "LOCKING", "MERGEBLOCKRATIO", "MODIFIES", "NO",
     "ON", "ORDER BY", "OUTPUT", "PARTITION", "PARTITION BY", "PARTITIONED BY", "PARTITIONED_BY",
     "PRIMARY KEY", "RANGE", "READS", "REMOTE", "RETURNS", "ROW", "SAMPLE", "SECURITY", "SET",
     "SETTINGS", "SORTKEY", "SOURCE", "STORED", "SYSTEM_VERSIONING", "TABLESPACE",
     "TBLPROPERTIES", "TO", "TRANSFORM", "TTL", "WITH"]

/-- Options of a sequence that are said in words alone. -/
def sequenceOptions : List (String × List (List String)) :=
  [("SCALE", [["EXTEND"], ["NOEXTEND"]]), ("SHARD", [["EXTEND"], ["NOEXTEND"]]),
   ("NO", [["CYCLE"], ["CACHE"], ["MAXVALUE"], ["MINVALUE"]]), ("SESSION", []), ("GLOBAL", []),
   ("KEEP", []), ("NOKEEP", []), ("ORDER", []), ("NOORDER", []), ("NOCACHE", []), ("CYCLE", []),
   ("NOCYCLE", []), ("NOMINVALUE", []), ("NOMAXVALUE", []), ("NOSCALE", []), ("NOSHARD", [])]

section
variable (d : Dialect) (run : Run)

/-- A property that has been read. -/
def done : Parse (Option Tree) :=
  return some (.other "property")

/-- The value of a property. -/
def propertyValue : Parse (Option Tree) := do
  skip (symbol "=")
  skip (word "AS")
  skip (run (.field false))
  done

/-- Properties in parentheses with commas between them. -/
def propertyList : Parse (Option Tree) := do
  let properties ← list (run .property)
  if properties.isEmpty then return none else done

/-! ## Properties by their words -/

/-- What a partition is a part of, from behind the word for it. -/
def partitionOf : Parse (Option Tree) := do
  if ← said "OF" then
    skip (run (.table true false))
    if ← word "DEFAULT" then done
    else if ← saidAll ["FOR", "VALUES"] then
      let bounds : Parse Unit := skip (list (run .bitwise))
      if ← word "IN" then bounds
      else if ← word "FROM" then
        bounds
        skip (said "TO")
        bounds
      else if ← saidAll ["WITH", "(", "MODULUS"] then
        skip (number run)
        skip (saidAll [",", "REMAINDER"])
        skip (number run)
        close
      else fault
      done
    else
      fault
      done
  else return none

/-- What a table is partitioned by. -/
def partitionedBy : Parse (Option Tree) := do
  skip (symbol "=")
  match ← run (.elements none) with
  | some _ => done
  | none =>
    let key ← run (.field false)
    skip (brackets run key)
    done

/-- The range of a dictionary. -/
def dictionaryRange : Parse (Option Tree) := do
  let value : Parse Unit := skip (orElse (plainWord run) (run .primary))
  unless ← mark .openParen do fault
  let bounded ← said "MIN"
  value
  if bounded then
    skip (said "MAX")
    value
  close
  done

/-- The settings of a dictionary. -/
def dictionarySettings : Parse (Option Tree) := do
  unless ← mark .openParen do fault
  skip (name run true)
  if ← mark .openParen then
    many do
      let key ← name run true
      let value ← run .primary
      return key.isSome || value.isSome
    skip (mark .closeParen)
  close
  done

/-- What stands behind `with`. Nothing is taken if it is no property, but a
single item that ends the statement leaves `with` taken. -/
def withProperty (start : Place) : Parse (Option Tree) := do
  if ← nextIs (Item.isKind .openParen) then propertyList run
  else if ← said "JOURNAL" then
    skip (word "TABLE")
    skip (symbol "=")
    skip (tableName run false)
    done
  else if ← saidIn ["ENCRYPTION", "SCHEMABINDING", "VIEW_METADATA"] then done
  else
    let data ← if ← said "DATA" then pure true else saidAll ["NO", "DATA"]
    if data then
      unless ← saidAll ["AND", "STATISTICS"] do skip (saidAll ["AND", "NO", "STATISTICS"])
      done
    else if ← word "SCHEMA" then
      skip (optionIn [("BINDING", []), ("COMPENSATION", []), ("EVOLUTION", []),
        ("TYPE", [["EVOLUTION"]])])
      done
    else if !(← secondIs fun _ => true) then return none
    else
      skip (said "NO")
      skip (said "CONCURRENT")
      if ← saidAll ["ISOLATED", "LOADING"] then
        skip (optionIn [("FOR", [["ALL"], ["INSERT"], ["NONE"]])])
        done
      else
        set start
        return none

/-- What a function returns. -/
def returned : Parse (Option Tree) := do
  if ← word "TABLE" then
    if ← symbol "<" then
      skip (separated (run .typeField))
      unless ← symbol ">" do fault
    else skip (run (.elements none))
  else
    unless ← saidAll ["NULL", "ON", "NULL", "INPUT"] do skip (run (.type false false true))
  done

/-- How the rows of a table are stored in a file. -/
def stored : Parse (Option Tree) := do
  skip (word "AS")
  let input ← if ← said "INPUTFORMAT" then string run else pure none
  let output ← if ← said "OUTPUTFORMAT" then string run else pure none
  if input.isNone && output.isNone then
    skip (orElse (wordOrString run) (orElse (number run) (name run true)))
  done

/-- How the rows of a table are written. -/
def rowFormat : Parse (Option Tree) := do
  if ← word "FORMAT" then
    if ← said "SERDE" then skip (string run)
    else
      skip (said "DELIMITED")
      for words in [["FIELDS", "TERMINATED", "BY"], ["ESCAPED", "BY"],
          ["COLLECTION", "ITEMS", "TERMINATED", "BY"], ["MAP", "KEYS", "TERMINATED", "BY"],
          ["LINES", "TERMINATED", "BY"], ["NULL", "DEFINED", "AS"]] do
        skipAfter (saidAll words) (string run)
    done
  else return none

/-- When rows expire, and what is done with them then. -/
def expiry : Parse (Option Tree) := do
  let tree ← run .bitwise
  if ← said "DELETE" then return tree
  else
    skipAfter (said "RECOMPRESS") (run .bitwise)
    skipAfter (saidAll ["TO", "DISK"]) (string run)
    skipAfter (saidAll ["TO", "VOLUME"]) (string run)
    return tree

/-- The versions of a table. -/
def versioning : Parse (Option Tree) := do
  skip (symbol "=")
  unless ← said "OFF" do
    skip (word "ON")
    if ← mark .openParen then
      many do
        if (← atEnd) || (← mark .closeParen) then return false
        else
          let before := (← get).rest.length
          if ← saidAll ["HISTORY_TABLE", "="] then skip (tableName run false)
          else if ← saidAll ["DATA_CONSISTENCY_CHECK", "="] then skip anyItem
          skip (mark .comma)
          return (← get).rest.length < before
  done

/-- A property from behind its word, which stands at `start`. -/
def propertyOf (start : Place) (upper : String) : Parse (Option Tree) := do
  if flagWords.contains upper then done
  else if valueWords.contains upper then propertyValue run
  else
    match upper with
    | "ALLOWED_VALUES" =>
      skip (separated (run .primary))
      done
    | "AUTO" =>
      if ← said "REFRESH" then
        skip (anyWord run)
        done
      else
        set start
        return none
    | "BACKUP" =>
      skip (anyWord run)
      done
    | "BLOCKCOMPRESSION" =>
      skip (symbol "=")
      skip (saidIn ["ALWAYS", "MANUAL", "NEVER", "DEFAULT"])
      skipAfter (said "AUTOTEMP") (run (.elements none))
      done
    | "CHARSET" | "CHARACTER SET" =>
      skip (symbol "=")
      skip (wordOrString run)
      done
    | "CHECKSUM" =>
      skip (symbol "=")
      unless ← word "ON" do skip (said "OFF")
      skip (word "DEFAULT")
      done
    | "CLUSTER BY" =>
      skip (separated (run .column))
      done
    | "CLUSTERED" =>
      skip (said "BY")
      skip (list (run .column))
      skipAfter (saidAll ["SORTED", "BY"]) (list (run .ordered))
      skip (word "INTO")
      skip (number run)
      skip (said "BUCKETS")
      done
    | "CONTAINS" =>
      skip (said "SQL")
      done
    | "COPY" => if ← said "GRANTS" then done else return none
    | "DATA_DELETION" =>
      skip (symbol "=")
      skip (word "ON")
      if ← mark .openParen then
        skip (separated (run .assignment))
        close
      done
    | "DATABLOCKSIZE" =>
      skip (symbol "=")
      skip (number run)
      skip (saidIn ["BYTES", "KBYTES", "KILOBYTES"])
      done
    | "DEFINER" =>
      skip (symbol "=")
      let user ← name run true
      skip (symbol "@")
      let host ← name run true
      let anyHost ← if host.isSome then pure true else symbol "%"
      if user.isSome && anyHost then done else return none
    | "DISTKEY" =>
      skip (wrapped (name run true))
      done
    | "DISTRIBUTED" =>
      if ← saidAll ["BY", "HASH"] then skip (names run)
      else skip (saidAll ["BY", "RANDOM"])
      if ← said "BUCKETS" then
        unless ← said "AUTO" do skip (number run)
      skip (order run)
      done
    | "DUPLICATE" =>
      skip (said "KEY")
      skip (names run)
      done
    | "ENVIRONMENT" =>
      skip (list (run .assignment))
      done
    | "FALLBACK" =>
      skip (said "PROTECTION")
      done
    | "FREESPACE" =>
      skip (symbol "=")
      skip (number run)
      skip (word "PERCENT")
      done
    | "INHERITS" =>
      skip (list (run (.table false false)))
      done
    | "LAYOUT" | "SOURCE" => dictionarySettings run
    | "LIFETIME" | "RANGE" => dictionaryRange run
    | "LIKE" => likeTable run
    | "LOCKING" =>
      let kind ← saidIn ["TABLE", "VIEW", "ROW", "DATABASE"]
      if kind then skip (tableName run false)
      skip (saidIn ["FOR", "IN"])
      skip (saidIn ["ACCESS", "EXCLUSIVE", "EXCL", "SHARE", "READ", "WRITE", "CHECKSUM"])
      skip (said "OVERRIDE")
      done
    | "MERGEBLOCKRATIO" =>
      if ← symbol "=" then
        skip (number run)
        skip (word "PERCENT")
      done
    | "MODIFIES" | "READS" =>
      skip (saidAll ["SQL", "DATA"])
      done
    | "NO" =>
      if ← saidAll ["PRIMARY", "INDEX"] then done
      else if ← said "SQL" then done
      else return none
    | "ON" =>
      if ← saidAll ["COMMIT", "PRESERVE", "ROWS"] then done
      else if ← saidAll ["COMMIT", "DELETE", "ROWS"] then done
      else
        let target ← name run true
        skip (run (.elements target))
        done
    | "ORDER BY" =>
      skip (separated (run .ordered))
      done
    | "OUTPUT" =>
      skip (run (.elements none))
      done
    | "PARTITION" =>
      match ← partitionOf run with
      | some tree => return some tree
      | none =>
        set start
        return none
    | "PARTITION BY" | "PARTITIONED BY" | "PARTITIONED_BY" => partitionedBy run
    | "PRIMARY KEY" => primaryKey run true
    | "REMOTE" =>
      skip (saidAll ["WITH", "CONNECTION"])
      skip (tableName run false)
      done
    | "RETURNS" => returned run
    | "ROW" => rowFormat run
    | "SAMPLE" =>
      skipAfter (said "BY") (run .bitwise)
      done
    | "SECURITY" =>
      skip (saidIn ["DEFINER", "INVOKER", "NONE"])
      done
    | "SET" =>
      advanceToEnd
      done
    | "SETTINGS" =>
      skip (separated (run .assignment))
      done
    | "SORTKEY" =>
      skip (names run)
      done
    | "STORED" => stored run
    | "SYSTEM_VERSIONING" => versioning run
    | "TABLESPACE" =>
      skip (symbol "=")
      skip (name run true)
      done
    | "TBLPROPERTIES" => propertyList run
    | "TO" =>
      skip (tableName run false)
      done
    | "TRANSFORM" =>
      skip (list (run .expression))
      done
    | "TTL" =>
      skip (separated (expiry run))
      skipAfter (word "WHERE") (run .assignment)
      skipAfter (word "GROUP BY") (groups run)
      done
    | "WITH" => withProperty run start
    | _ => return none

/-- A property that starts with a word for it, and whether that word stands
here at all. -/
def wordedProperty : Parse (Bool × Option Tree) := do
  let start ← get
  match ← peek with
  | some item =>
    if item.kind != .text && propertyWords.contains item.upper then
      advance
      return (true, ← propertyOf run start item.upper)
    else return (false, none)
  | none => return (false, none)

/-! ## Other properties -/

/-- One option of a sequence, if there is one. -/
def sequenceOption : Parse Bool := do
  if ← said "INCREMENT" then
    skip (said "BY")
    skip (symbol "=")
    skip (run .term)
    return true
  else if ← saidIn ["MINVALUE", "MAXVALUE"] then
    skip (run .term)
    return true
  else if ← said "START" then
    skip (said "WITH")
    skip (symbol "=")
    skip (run .term)
    return true
  else if ← said "CACHE" then
    skip (number run)
    return true
  else if ← saidAll ["OWNED", "BY"] then
    unless ← said "NONE" do skip (run .column)
    return true
  else optionIn sequenceOptions

/-- The options of a sequence. A comma belongs to what follows it, and on
its own it counts as an option. -/
def sequenceProperties : Parse Bool := do
  let before := (← get).rest.length
  many do
    skip (mark .comma)
    sequenceOption run
  return (← get).rest.length < before

/-- A property. -/
def property : Parse (Option Tree) := do
  let (worded, tree) ← wordedProperty run
  if worded then return tree
  let (worded, tree) ← if ← word "DEFAULT" then wordedProperty run else pure (false, none)
  if worded then return tree
  if ← saidAll ["COMPOUND", "SORTKEY"] then
    skip (names run)
    return ← done
  if ← word "SQL SECURITY" then
    skip (symbol "=")
    skip (saidIn ["DEFINER", "INVOKER"])
    return ← done
  let start ← get
  if ← sequenceProperties run then return ← done
  skip (run .column)
  if ← symbol "=" then
    skip (orElse (run .bitwise) (anyWord run))
    done
  else
    set start
    return none

/-- Properties one after the other, and whether there are any. -/
def properties : Parse Bool := do
  let first ← property run
  if first.isSome then
    many do
      return (← property run).isSome
  return first.isSome

/-! ## Properties in front of the elements -/

/-- One property between the name of a table and its elements. -/
def earlyProperty : Parse Bool := do
  skip (mark .comma)
  for text in ["NO", "DUAL", "BEFORE", "DEFAULT"] do
    skip (said text)
  unless ← said "LOCAL" do skip (saidAll ["NOT", "LOCAL"])
  skip (said "AFTER")
  skip (saidIn ["MIN", "MINIMUM"])
  skip (saidIn ["MAX", "MAXIMUM"])
  return (← wordedProperty run).2.isSome

end

end SchemaTypes.Sql.Grammar
