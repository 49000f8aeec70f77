import SchemaTypes.Sql.Grammar.Query

/-!
# `SchemaTypes.Sql.Grammar.Constraint`: columns and constraints

An element of a table is a constraint on the table or a column with
constraints of its own. Both kinds of constraints start with the same
words, but only some of these words start an element.
-/

set_option autoImplicit false

namespace SchemaTypes.Sql.Grammar

open Parse

/-- The words that start a constraint on a table. -/
def tableConstraintWords : List String :=
  ["CHECK", "EXCLUDE", "FOREIGN KEY", "LIKE", "PERIOD", "PRIMARY KEY", "UNIQUE", "BUCKET",
   "TRUNCATE"]

/-- The words that start an index among the elements of a table. -/
def indexWords : List String := ["FULLTEXT", "INDEX", "KEY", "SPATIAL"]

/-- The options of a key. -/
def keyOptionWords : List (String × List (List String)) :=
  [("NOT", [["ENFORCED"]]), ("MATCH", [["FULL"], ["PARTIAL"], ["SIMPLE"]]),
   ("INITIALLY", [["DEFERRED"], ["IMMEDIATE"]]), ("USING", [["BTREE"], ["HASH"]]),
   ("DEFERRABLE", []), ("NORELY", []), ("RELY", [])]

/-- What a key does when a row that it refers to changes. -/
def keyActions : List (List String) :=
  [["NO", "ACTION"], ["CASCADE"], ["RESTRICT"], ["SET", "NULL"], ["SET", "DEFAULT"]]

/-- The name of a column that was read as a field. -/
def columnName : Tree → String
  | .identifier name => name
  | .literal text => text
  | .other "null" _ => "NULL"
  | .other "star" _ => "*"
  | _ => ""

section
variable (d : Dialect) (run : Run)

/-! ## Parts of constraints -/

/-- The options of a key. -/
def keyOptions : Parse Unit :=
  many do
    if ← word "ON" then
      skip anyItem
      unless ← keyActions.anyM saidAll do fault
      return true
    else optionIn keyOptionWords

/-- What a foreign key does when a row that it refers to changes. -/
def foreignActions : Parse Unit :=
  many do
    if ← word "ON" then
      unless ← wordIn ["DELETE", "UPDATE"] do fault
      unless ← saidAll ["NO", "ACTION"] do
        if ← word "SET" then skip (wordIn ["NULL", "DEFAULT"]) else advance
      return true
    else return false

/-- A table that another one refers to, with the options of the key. -/
def reference : Parse Unit := do
  skip (run (.table true false))
  keyOptions

/-- One item of an index: an expression with its operator class, its
direction and the operator it is used with. -/
def indexItem : Parse (Option Tree) := do
  let classed : Parse (Option Tree) := do
    let tree ← run .assignment
    let ends := (← nextIs (Item.spellsIn ["ASC", "DESC", "NULLS", "WITH"])) ||
      (← nextIs (Item.isKind .comma)) || (← nextIs (Item.isKind .closeParen))
    if ends then return tree
    else
      skip (tableName run false)
      return some (.other "opclass")
  let tree ← orderedBy run classed
  if ← word "WITH" then advance
  return tree

/-- What follows the name of an index. -/
def indexParameters : Parse Unit := do
  skipAfter (word "USING") (anyWord run)
  if ← nextIs (Item.isKind .openParen) then skip (list (indexItem run))
  skipAfter (said "INCLUDE") (names run)
  skipAfter (word "PARTITION BY") (separated (run .disjunction))
  skipAfter (word "WITH") (list (run .property))
  skipAfter (saidAll ["USING", "INDEX", "TABLESPACE"]) (anyWord run)
  skipAfter (word "WHERE") (run .assignment)
  skipAfter (word "ON") (run (.field false))

/-- A value after the words that lead it, and whether they are there. -/
def valueAfter (words : List String) : Parse Bool := do
  if ← saidAll words then
    skip (run .bitwise)
    return true
  else return false

/-! ## Constraints by their words -/

/-- A primary key, from behind its words. -/
def primaryKey (inProperties : Bool) : Parse (Option Tree) := do
  skip (wordIn ["ASC", "DESC"])
  if (← nextIs (Item.isKind .openParen)) || inProperties then
    let columns ← list (run (.field false))
    indexParameters run
    keyOptions
    return some (.primaryKey columns)
  else
    keyOptions
    return some .primaryKeyColumn

/-- What is done about a row that breaks a key. -/
def conflictActions : List (String × List (List String)) :=
  [("ABORT", []), ("FAIL", []), ("IGNORE", []), ("REPLACE", []), ("ROLLBACK", []),
   ("UPDATE", []), ("DO", [["NOTHING"], ["UPDATE"]])]

/-- What is to be done about a row that breaks a key. -/
def conflictClause : Parse Unit := do
  let conflict ← saidAll ["ON", "CONFLICT"]
  let clause ← if conflict then pure true else saidAll ["ON", "DUPLICATE", "KEY"]
  if clause then
    if conflict then
      if ← saidAll ["ON", "CONSTRAINT"] then skip (name run true)
      else if ← mark .openParen then
        skip (separated (name run true))
        close
    skip (optionIn conflictActions)
    if ← lastWas (Item.isWord "UPDATE") then
      skip (word "SET")
      skip (separated (run .equality))
    skipAfter (word "WHERE") (run .assignment)

/-- A unique key, from behind its word. -/
def uniqueKey : Parse (Option Tree) := do
  skip (saidIn ["KEY", "INDEX"])
  skip (saidAll ["NULLS", "NOT", "DISTINCT"])
  let keyName ← if d.listsIndexes then name run false else pure none
  skip (run (.elements keyName))
  skipAfter (said "INCLUDE") (names run)
  if ← word "USING" then skip anyItem
  conflictClause run
  keyOptions
  return some .unique

/-- A foreign key, from behind its words. -/
def foreignKey : Parse (Option Tree) := do
  let columns ←
    if ← nextIs (Item.isWord "REFERENCES") then pure [] else names run
  if ← word "REFERENCES" then reference run
  foreignActions
  keyOptions
  return some (.foreignKey columns)

/-- A column that is generated, from behind its first word. -/
def generated : Parse (Option Tree) := do
  if ← saidAll ["BY", "DEFAULT"] then skip (takeAll [Item.isWord "ON", Item.isWord "NULL"])
  else skip (said "ALWAYS")
  skip (word "AS")
  if ← said "ROW" then
    unless ← said "START" do skip (word "END")
    skip (said "HIDDEN")
    return some (.other "generatedasrowcolumnconstraint")
  else
    let identity ← said "IDENTITY"
    if ← mark .openParen then
      let started ← valueAfter run ["START", "WITH"]
      for words in [["INCREMENT", "BY"], ["MINVALUE"], ["MAXVALUE"]] do
        skip (valueAfter run words)
      unless ← said "CYCLE" do skip (saidAll ["NO", "CYCLE"])
      if !identity then skip (run .disjunction)
      else if !started && (← nextIs (Item.isKind .number)) then skip (separated (run .bitwise))
      close
    if ← said "STORED" then return some (.other "computedcolumnconstraint")
    else return some .identity

/-- A column that counts up by itself, from behind its word. -/
def counted : Parse (Option Tree) := do
  let plain : Tree := .other "autoincrementcolumnconstraint"
  if ← mark .openParen then
    let values ← separated (run .bitwise)
    close
    return some (if 2 ≤ values.length then .identity else plain)
  else if ← said "START" then
    let start ← run .bitwise
    skip (said "INCREMENT")
    let increment ← run .bitwise
    skip (saidIn ["ORDER", "NOORDER"])
    return some (if start.isSome && increment.isSome then .identity else plain)
  else return some plain

/-- The columns of a table that this one is like, from behind the word. -/
def likeTable : Parse (Option Tree) := do
  skip (run (.table true false))
  many do
    if ← saidIn ["INCLUDING", "EXCLUDING"] then
      skip (name run true)
      return true
    else return false
  return some (.other "likeproperty")

/-- An index among the elements of a table, from behind its word. -/
def listedIndex (ofKind : Bool) : Parse (Option Tree) := do
  if ofKind then skip (saidIn ["INDEX", "KEY"])
  skip (name run false)
  if ← word "USING" then skip anyItem
  skip (list (run .ordered))
  many do
    if ← said "KEY_BLOCK_SIZE" then
      skip (symbol "=")
      skip (number run)
      return true
    else if ← word "USING" then
      skip anyItem
      return true
    else if ← saidAll ["WITH", "PARSER"] then
      skip (anyWord run)
      return true
    else if ← word "COMMENT" then
      skip (string run)
      return true
    else saidIn ["VISIBLE", "INVISIBLE"]
  return some (.other "indexcolumnconstraint")

/-- A constraint from behind its word. Nothing if the word starts none
here. -/
def constraintOf (upper : String) : Parse (Option Tree) := do
  let formed (form : String) : Parse (Option Tree) := return some (.other form)
  match upper with
  | "NOT" =>
    if ← said "NULL" then return some (.notNull false)
    else if ← said "CASESPECIFIC" then formed "casespecificcolumnconstraint"
    else if ← saidAll ["FOR", "REPLICATION"] then
      formed "notforreplicationcolumnconstraint"
    else return none
  | "NULL" => return some (.notNull true)
  | "PRIMARY KEY" => primaryKey run false
  | "UNIQUE" => uniqueKey d run
  | "DEFAULT" =>
    skip (run .bitwise)
    return some .default
  | "CHECK" =>
    if ← nextIs (Item.isKind .openParen) then
      skip (wrapped (run .assignment))
      skip (said "ENFORCED")
      return some .check
    else return none
  | "REFERENCES" =>
    reference run
    formed "reference"
  | "FOREIGN KEY" => foreignKey run
  | "LIKE" => likeTable run
  | "EXCLUDE" =>
    indexParameters run
    formed "excludecolumnconstraint"
  | "PERIOD" =>
    if ← saidAll ["FOR", "SYSTEM_TIME"] then
      skip (names run)
      formed "periodforsystemtimeconstraint"
    else return none
  | "COLLATE" =>
    skip (orElse (quotedName run) (run .column))
    formed "collatecolumnconstraint"
  | "COMMENT" =>
    skip (string run)
    formed "commentcolumnconstraint"
  | "GENERATED" => generated run
  | "AUTO_INCREMENT" | "AUTOINCREMENT" | "IDENTITY" => counted run
  | "CHARACTER SET" =>
    skip (wordOrString run)
    formed "charactersetcolumnconstraint"
  | "FORMAT" =>
    skip (wordOrString run)
    formed "dateformatcolumnconstraint"
  | "TITLE" =>
    skip (wordOrString run)
    formed "titlecolumnconstraint"
  | "ENCODE" =>
    skip (plainWord run)
    formed "encodecolumnconstraint"
  | "PATH" =>
    skip (string run)
    formed "pathcolumnconstraint"
  | "EPHEMERAL" =>
    skip (run .bitwise)
    formed "ephemeralcolumnconstraint"
  | "TTL" =>
    skip (run .bitwise)
    formed "mergetreettl"
  | "INLINE" =>
    skip (said "LENGTH")
    skip (run .bitwise)
    formed "inlinelengthcolumnconstraint"
  | "UPPERCASE" => formed "uppercasecolumnconstraint"
  | "CASESPECIFIC" => formed "casespecificcolumnconstraint"
  | "COMPRESS" =>
    if ← nextIs (Item.isKind .openParen) then skip (list (run .bitwise))
    else skip (run .bitwise)
    formed "compresscolumnconstraint"
  | "CLUSTERED" =>
    skip (list (run .ordered))
    formed "clusteredcolumnconstraint"
  | "NONCLUSTERED" =>
    skip (list (run .ordered))
    formed "nonclusteredcolumnconstraint"
  | "ON" =>
    if ← word "UPDATE" then
      skip (run (.call false true false))
      formed "onupdatecolumnconstraint"
    else
      skip (name run true)
      formed "onproperty"
  | "WITH" =>
    skip (list (run .property))
    formed "properties"
  | "BUCKET" | "TRUNCATE" =>
    if ← nextIs (Item.isKind .openParen) then
      skip (list (orElse (run .primary) (run .column)))
      formed (if upper == "BUCKET" then "partitionedbybucket" else "partitionbytruncate")
    else return none
  | "FULLTEXT" | "SPATIAL" => if d.listsIndexes then listedIndex run true else return none
  | "INDEX" | "KEY" => if d.listsIndexes then listedIndex run false else return none
  | "ZEROFILL" =>
    if d.listsIndexes then formed "zerofillcolumnconstraint" else return none
  | _ => return none

/-- A constraint from its word on. -/
def constraint : Parse (Option Tree) := do
  let start ← get
  match ← peek with
  | none => return none
  | some item =>
    if item.kind == .text then return none
    else
      advance
      match ← constraintOf d run item.upper with
      | some tree => return some tree
      | none =>
        set start
        return none

/-! ## Columns -/

/-- One constraint on a column, with its name. A name that nothing follows
counts as one. -/
def columnConstraint : Parse (Option Tree) := do
  let named ← if ← word "CONSTRAINT" then name run true else pure none
  match ← constraint d run with
  | some tree => return some (.columnConstraint (some tree))
  | none =>
    if ← said "CHECK" then return some (.columnConstraint none)
    else return named

/-- The constraints on a column. -/
def columnConstraints : Parse (List Tree) :=
  repeating
    (fun trees => do
      match ← columnConstraint d run with
      | some tree => return some (trees ++ [tree])
      | none => return none)
    []

/-- How a column is computed or passed, where that is said in front of its
constraints, and the type that is said only after it. -/
def columnMode (type : Option Tree) : Parse (List Tree × Option Tree) := do
  let computed : Tree := .columnConstraint (some (.other "computedcolumnconstraint"))
  let leads ← if type.isNone then word "AS" else pure false
  let leads ← if leads then pure true else saidIn ["ALIAS", "MATERIALIZED"]
  if leads then
    skip (run .assignment)
    skip (said "PERSISTED")
    skip (takeAll [Item.isNot, Item.isWord "NULL"])
    return ([computed], type)
  else if type.isNone && (← nextIs (Item.isWordIn ["IN", "OUT"])) then
    skip (word "IN")
    skip (word "OUT")
    return ([.other "inoutcolumnconstraint"], ← run (.type false false true))
  else if type.isSome && (← nextIs (Item.isWord "AS")) &&
      (← secondIs (Item.isKind .openParen)) then
    advance
    skip (run .disjunction)
    skip (saidIn ["STORED", "VIRTUAL"])
    return ([computed], type)
  else return ([], type)

/-- What follows the name of a column. Without a type and constraints the
name stands for itself. -/
def columnEnd (head : Option Tree) : Parse (Option Tree) := do
  let type ← run (.type false true true)
  if ← saidAll ["FOR", "ORDINALITY"] then
    return some (.columnDef (head.map columnName) none [])
  else
    let (first, type) ← columnMode run type
    let constraints := first ++ (← columnConstraints d run)
    if type.isNone && constraints.isEmpty then return head
    else
      if ← saidIn ["FIRST", "AFTER"] then skip (run .column)
      return some (.columnDef (head.map columnName) type constraints)

/-! ## Elements -/

/-- The constraints after the name of a constraint on a table. -/
def namedConstraints : Parse (List Tree) :=
  repeating
    (fun trees => do
      let stated ← if ← nextIs (Item.isKind .name) then pure none else constraint d run
      match ← orElse (pure stated) (run (.call false true false)) with
      | some tree => return some (trees ++ [tree])
      | none => return none)
    []

/-- A constraint on a table. -/
def tableConstraint : Parse (Option Tree) := do
  if ← word "CONSTRAINT" then
    let named ← name run true
    return some (.constraint (named.map Tree.name) (← namedConstraints d run))
  else
    let starts (item : Item) : Bool :=
      item.kind != .name && item.kind != .text &&
        (tableConstraintWords.contains item.upper ||
          (d.listsIndexes && indexWords.contains item.upper))
    if ← nextIs starts then constraint d run else return none

/-- An element of a table. -/
def element : Parse (Option Tree) := do
  match ← tableConstraint d run with
  | some tree => return some tree
  | none => columnEnd d run (← run (.field true))

/-- The words and marks that start a query instead of elements. -/
def startsQuery (item : Item) : Bool :=
  item.kind == .openParen || item.isWordIn ["SELECT", "WITH", "TABLE"]

/-- The elements of a table in parentheses. -/
def elements (head : Option Tree) : Parse (Option Tree) := do
  let isList ← nextIs (Item.isKind .openParen)
  if !isList || (← secondIs startsQuery) then return head
  else
    advance
    let trees ← separated (element d run)
    close
    return some (.schema head trees)

end

end SchemaTypes.Sql.Grammar
