import SchemaTypes.Sql.Grammar.Expression

/-!
# `SchemaTypes.Sql.Grammar.Query`: tables and queries

A query selects from tables, lists values or names a table; set
operations join it with others, and clauses follow it. The name of a
table has up to three parts that are told apart.
-/

set_option autoImplicit false

namespace SchemaTypes.Sql.Grammar

open Parse

/-! ## Names of tables -/

/-- The parts of a table's name that are told apart. -/
structure QualifiedName where
  catalog : Option String := none
  schema : Option String := none
  name : Option String := none
deriving Repr, DecidableEq, Inhabited

/-- The name after one more part. The parts shift towards the front until
there is a catalog; later ones only replace the last. -/
def QualifiedName.extend (n : QualifiedName) (part : Option String) : QualifiedName :=
  if (n.catalog.getD "").isEmpty then
    { catalog := n.schema, schema := n.name, name := some (part.getD "") }
  else { n with name := some (part.getD "") }

/-- The tree of a table by its name. -/
def QualifiedName.tree (n : QualifiedName) : Tree :=
  .table n.name n.schema

section
variable (run : Run)

/-- One part of the name of a table. It may stand in the quotes of a
string, and outside of a declaration it may be a call. -/
def tablePart (declared : Bool) : Parse (Option String) := do
  let called ← if declared then pure none else run (.call false false false)
  match called with
  | some tree => return some tree.form
  | none =>
    match ← name run false with
    | some tree => return some tree.name
    | none =>
      match ← peek with
      | some item =>
        if item.kind == .text then
          advance
          return some item.text
        else return none
      | none => return none

/-- The name of a table. -/
def tableName (declared : Bool) : Parse QualifiedName := do
  let first ← tablePart run declared
  let qualified ← repeating
    (fun (qualified : QualifiedName) => do
      if ← mark .dot then return some (qualified.extend (← tablePart run declared))
      else return none)
    { name := first }
  if (qualified.name.getD "").isEmpty then fault
  return qualified

/-! ## Tables of a query -/

/-- The name that a table has in a query, and the names of its columns. -/
def tableAlias (test : Item → Bool) : Parse (Option Tree) := do
  if ← limitAhead run then return none
  let leads ← word "AS"
  let given ← orElse (nameOf run leads test) do
    if ← mark .text then return some (.identifier "") else return none
  let before ← get
  let opened ← mark .openParen
  let columns ←
    if opened then
      separated do
        let column ← name run true
        skip (word "AS")
        run (.columnEnd column)
    else pure []
  if columns.isEmpty then set before else close
  if given.isNone && columns.isEmpty then return none
  else return some (.other "tablealias" ((given.map Tree.name).getD ""))

/-- Whether an item may name a table of a query. -/
def isTableAlias (item : Item) : Bool :=
  item.isNameWord && !notTableAliases.contains item.upper

/-- A sample of a table. -/
def tableSample : Parse Bool := do
  if ← word "TABLESAMPLE" then
    unless ← word "ROW" do skip (plainWord run)
    let opened ← mark .openParen
    skip (run .factor)
    skip (take fun item => item.isWord "PERCENT" || item.isSymbol "%" || item.isWord "ROWS")
    if opened then close
    if ← saidIn ["SEED", "REPEATABLE"] then skip (wrapped (number run))
    return true
  else return false

/-- The rows that a call gives for each row before it. -/
def lateral : Parse Bool := do
  if ← word "LATERAL" then
    match ← run (.query false true true true) with
    | some _ => pure ()
    | none =>
      skip (orElse (run (.call false true false)) (name run false))
      many do
        if ← mark .dot then
          skip (orElse (run (.call false true false)) (name run false))
          return true
        else return false
    skip (takeAll [Item.isWord "WITH", Item.isWord "ORDINALITY"])
    skip (tableAlias run isTableAlias)
    return true
  else return false

/-- The rows of a list. -/
def unnested : Parse Bool := do
  let isWord ← nextIs (Item.isWord "UNNEST")
  let opens ← secondIs (Item.isKind .openParen)
  if isWord && opens then
    advance
    skip (list (run .equality))
    skip (takeAll [Item.isWord "WITH", Item.isWord "ORDINALITY"])
    skip (tableAlias run isTableAlias)
    if ← takeAll [Item.isWord "WITH", Item.isWord "OFFSET"] then
      skip (word "AS")
      skip (name run false)
    return true
  else return false

/-- A row of values. -/
def valueRow : Parse (Option Tree) := do
  let value : Parse (Option Tree) := do
    if ← word "DEFAULT" then return some (.other "var") else run .expression
  if ← mark .openParen then
    skip (separated value)
    close
    return some (.other "tuple")
  else
    match ← run .expression with
    | some _ => return some (.other "tuple")
    | none => return none

/-- Rows of values. -/
def values : Parse (Option Tree) := do
  let derived ← takeAll [Item.isKind .openParen, Item.isWord "VALUES"]
  let listed ← if derived then pure true else said "VALUES"
  if listed then
    skip (separated (valueRow run))
    let given ← tableAlias run isTableAlias
    if derived then close
    if given.isNone then skip (tableAlias run isTableAlias)
    return some (.other "values")
  else return none

/-- Hints on how a table is to be read. -/
def tableHints : Parse Unit := do
  if ← takeAll [Item.isWord "WITH", Item.isKind .openParen] then
    skip (separated (orElse (run (.call false true false)) (anyWord run)))
    close
  else
    many do
      if ← saidIn ["FORCE", "IGNORE", "USE"] then
        skip (saidIn ["INDEX", "KEY"])
        if ← word "FOR" then skip anyItem
        skip (names run)
        return true
      else return false

/-- A table of a query. -/
def table (schema joins : Bool) : Parse (Option Tree) := do
  if ← lateral run then return some (.other "lateral")
  if ← unnested run then return some (.other "unnest")
  if let some tree ← values run then return some tree
  if let some tree ← run (.query false true true true) then return some tree
  let tree ←
    if ← saidAll ["ROWS", "FROM"] then
      skip (list (run (.table false false)))
      pure (.other "table")
    else
      skip (word "ONLY")
      let qualified ← tableName run schema
      skip (brackets run (some (.other "table")))
      pure qualified.tree
  skip (said "*")
  if schema then run (.elements (some tree))
  else
    skip (tableAlias run isTableAlias)
    tableHints run
    skip (tableSample run)
    if joins then
      many do
        return (← run .join).isSome
    if ← takeAll [Item.isWord "WITH", Item.isWord "ORDINALITY"] then
      skip (tableAlias run isTableAlias)
    return some tree

/-! ## Joins -/

/-- The words in front of a join or a set operation. -/
def joinWords : Parse Unit := do
  skip (wordIn ["ASOF", "NATURAL"])
  skip (wordIn ["LEFT", "RIGHT", "FULL"])
  skip (wordIn ["ANTI", "CROSS", "INNER", "OUTER", "SEMI"])

/-- The condition of a join. -/
def joinCondition : Parse Bool := do
  if ← word "ON" then
    skip (run .assignment)
    return true
  else if ← word "USING" then
    skip (list (run .column))
    return true
  else return false

/-- What joins another table. -/
def join : Parse (Option Tree) := do
  if ← mark .comma then
    match ← attempt (run (.table false false)) with
    | some _ => return some (.other "join")
    | none => return none
  else
    let start ← get
    joinWords
    if ← word "JOIN" then
      skip (run (.table false false))
      unless ← joinCondition run do
        let before ← get
        if (← run .join).isSome then
          unless ← joinCondition run do set before
        else set before
      return some (.other "join")
    else
      set start
      return none

/-! ## Clauses -/

/-- The groups of a query. -/
def groups : Parse Unit := do
  unless ← word "ALL" do skip (word "DISTINCT")
  many do
    let before := (← get).rest.length
    skip (separated do
      if ← nextIs (Item.isWordIn ["CUBE", "ROLLUP"]) then return none else run .assignment)
    let middle ← get
    skip (word "WITH")
    if ← wordIn ["CUBE", "ROLLUP"] then
      if ← nextIs (Item.isKind .openParen) then skip (list (run .bitwise))
    else if ← word "GROUPING SETS" then skip (list (run .assignment))
    else
      unless ← said "TOTALS" do set middle
    return (← get).rest.length < before

/-- What locks the rows of a query. -/
def lock : Parse Bool := do
  let locks ←
    [["FOR", "UPDATE"], ["FOR", "SHARE"], ["LOCK", "IN", "SHARE", "MODE"],
      ["FOR", "KEY", "SHARE"], ["FOR", "NO", "KEY", "UPDATE"]].anyM saidAll
  if locks then
    skipAfter (said "OF") (separated (run (.table true false)))
    unless ← said "NOWAIT" do
      if ← said "WAIT" then skip (run .primary) else skip (saidAll ["SKIP", "LOCKED"])
  return locks

/-- One clause of a query, if there is one. -/
def clause : Parse Bool := do
  match ← peek with
  | none => return false
  | some item =>
    if item.kind != .word then return false
    else
      match item.upper with
      | "WHERE" | "HAVING" | "QUALIFY" =>
        advance
        skip (run .assignment)
        return true
      | "GROUP BY" =>
        advance
        groups run
        return true
      | "WINDOW" =>
        advance
        skip (separated (namedWindow run))
        return true
      | "ORDER BY" => order run
      | "CLUSTER BY" | "DISTRIBUTE BY" | "SORT BY" =>
        advance
        skip (separated (run .ordered))
        return true
      | "LIMIT" | "FETCH" => limit run
      | "OFFSET" => offset run
      | "FOR" | "LOCK" =>
        if ← lock run then
          many (lock run)
          return true
        else return false
      | "TABLESAMPLE" => tableSample run
      | "CONNECT BY" =>
        advance
        skip (said "NOCYCLE")
        skip (run .assignment)
        skipAfter (saidAll ["START", "WITH"]) (run .assignment)
        return true
      | _ => return false

/-- The forms that clauses may follow. -/
def clausedForms : List String := queryForms ++ ["subquery", "table", "values"]

/-- The clauses after a query. -/
def clauses (tree : Option Tree) : Parse Unit := do
  if tree.any fun tree => clausedForms.contains tree.form then
    many do
      return (← run .join).isSome
    many (lateral run)
    many (clause run)

/-! ## Queries -/

/-- The set operations after a query. -/
def setOperations (tree : Option Tree) : Parse (Option Tree) := do
  match tree with
  | none => return none
  | some _ =>
    repeating
      (fun _ => do
        let start ← get
        joinWords
        match ← peek with
        | some item =>
          if item.isWordIn ["UNION", "EXCEPT", "INTERSECT"] then
            advance
            skip (wordIn ["DISTINCT", "ALL"])
            unless ← saidAll ["BY", "NAME"] do skip (saidAll ["STRICT", "CORRESPONDING"])
            skip (run (.query true false true false))
            return some (some (.other item.upper.toLower))
          else
            set start
            return none
        | none =>
          set start
          return none)
      tree

/-- A common table of a query. -/
def commonTable : Parse (Option Tree) := do
  let start ← get
  let given ← tableAlias run Item.isNameWord
  if (given.map Tree.name).getD "" == "" then fault
  if ← word "AS" then
    unless ← saidAll ["NOT", "MATERIALIZED"] do skip (said "MATERIALIZED")
    skip (wrapped (run .statement))
    return some (.other "cte")
  else
    set start
    return none

/-- The common tables in front of a query. -/
def commonTables : Parse Unit := do
  skip (word "RECURSIVE")
  skip (commonTable run)
  many do
    if ← take fun item => item.kind == .comma || item.isWord "WITH" then
      skip (word "WITH")
      skip (commonTable run)
      return true
    else return false

/-- What a query selects, from behind its first word. -/
def selection (fromFirst : Bool) : Parse Tree := do
  if ← secondIs fun item => item.kind != .dot then
    skip (word "ALL")
    if ← word "DISTINCT" then
      if ← word "ON" then skip (valueRow run)
  skipAfter (word "AS") (saidIn ["STRUCT", "VALUE"])
  skip (separated (run .expression))
  if ← word "INTO" then
    skip (wordIn ["TEMP", "TEMPORARY"])
    skip (said "UNLOGGED")
    skip (word "TABLE")
    skip (run (.table true false))
  unless fromFirst do
    skipAfter (word "FROM") (run (.table false false))
  clauses run (some (.other "select"))
  return .other "select"

/-- A query in parentheses, from behind the first, with its name. -/
def wrappedQuery (table named : Bool) : Parse (Option Tree) := do
  let tree ←
    if ← word "FROM" then
      skip (run (.table false true))
      match ← run (.query false false true true) with
      | some tree => pure (some tree)
      | none => pure (some (.other "select"))
    else if table then run (.table false false)
    else run (.query true false true false)
  let tree ← setOperations run tree
  clauses run tree
  close
  match tree with
  | none => return none
  | some _ =>
    if named then skip (tableAlias run isTableAlias)
    skip (tableSample run)
    return some (.other "subquery")

/-- What is to be described, from behind the word for it. -/
def description : Parse Unit := do
  skip (wordIn ["TABLE", "VIEW", "SCHEMA", "DATABASE", "FUNCTION", "PROCEDURE", "INDEX"])
  skip (saidIn ["ANALYZE", "EXTENDED", "FORMATTED", "HISTORY"])
  if ← nextIs (Item.isWord "FORMAT") then skip (run .property)
  skip (run (.table true false))
  many do
    return (← run .property).isSome

/-- A query. -/
def query (nested table named joined : Bool) : Parse (Option Tree) := do
  let finish (tree : Option Tree) : Parse (Option Tree) :=
    if joined then setOperations run tree else pure tree
  if ← word "WITH" then
    commonTables run
    match ← run .statement with
    | some tree =>
      return some (if clausedForms.contains tree.form then tree else .other "with")
    | none =>
      fault
      return some (.other "with")
  else
    let fromFirst ← word "FROM"
    if fromFirst then skip (run (.table false true))
    if ← word "SELECT" then finish (some (← selection run fromFirst))
    else if ← (if nested || table then mark .openParen else pure false) then
      wrappedQuery run table named
    else if ← nextIs (Item.spells "VALUES") then finish (← values run)
    else if fromFirst then
      clauses run (some (.other "select"))
      finish (some (.other "select"))
    else if ← word "TABLE" then
      skip (run (.table false false))
      finish (some (.other "select"))
    else if ← word "DESCRIBE" then
      description run
      finish (some (.other "describe"))
    else return none

/-- What may follow a query. -/
def queryEnd (head : Tree) : Parse (Option Tree) := do
  let tree ← setOperations run (some head)
  clauses run tree
  return tree

/-! ## Statements inside others -/

/-- The words that start a statement which is no query. -/
def statementWords : List String :=
  ["ALTER", "ANALYZE", "BEGIN", "CACHE", "COMMENT", "COMMIT", "COPY", "CREATE", "DELETE", "DROP",
   "GRANT", "INSERT", "KILL", "LOAD", "MERGE", "PRAGMA", "REVOKE", "ROLLBACK", "SET", "TRUNCATE",
   "UNCACHE", "UPDATE", "USE"]

/-- Takes items up to a closing parenthesis that was not opened. -/
def balanced : Nat → Nat → Parse Unit
  | 0, _ => return
  | fuel + 1, depth => do
    match ← peek with
    | none => return
    | some item =>
      if item.kind == .closeParen && depth == 0 then return
      else
        advance
        let depth :=
          match item.kind with
          | .openParen => depth + 1
          | .closeParen => depth - 1
          | _ => depth
        balanced fuel depth

/-- A statement inside another one. -/
def statementInside : Parse (Option Tree) := do
  if ← atEnd then return none
  else if ← nextIs (Item.isWordIn statementWords) then
    balanced (← get).size 0
    return some (.other "statement")
  else
    let tree ←
      match ← run .expression with
      | some tree => setOperations run (some tree)
      | none => run (.query false false true true)
    clauses run tree
    return tree

end

end SchemaTypes.Sql.Grammar
