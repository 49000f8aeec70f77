import SchemaTypes.Sql.Grammar.Rule

/-!
# `SchemaTypes.Sql.Grammar.Clause`: names, orders, limits and windows

Clauses that stand behind an expression wherever it is used: in the list
of a query, in the arguments of a call, or as the item of an index.
-/

set_option autoImplicit false

namespace SchemaTypes.Sql.Grammar

open Parse

section
variable (run : Run)

/-- Whether a limit with its value follows, so that the word for it is no
name. -/
def limitAhead : Parse Bool := do
  if ← nextIs (Item.isWordIn ["LIMIT", "OFFSET"]) then
    ahead do
      advance
      run .term
  else return false

/-- An expression with the name for it, which has to be led by `as` if
`led` is set. -/
def aliased (led : Bool) (tree : Option Tree) : Parse (Option Tree) := do
  if ← limitAhead run then return tree
  let leads ← word "AS"
  if led && !leads then return tree
  if ← mark .openParen then
    skip (separated (name run leads))
    close
    return some (.other "aliases")
  match ← name run leads with
  | some given => return some (.other "alias" given.name)
  | none => return tree

/-- An expression of an order, with its direction. -/
def orderedBy (reading : Parse (Option Tree)) : Parse (Option Tree) := do
  match ← reading with
  | none => return none
  | some tree =>
    skip (word "ASC")
    skip (word "DESC")
    skip (saidAll ["NULLS", "FIRST"])
    skip (saidAll ["NULLS", "LAST"])
    if ← saidAll ["WITH", "FILL"] then
      skipAfter (word "FROM") (run .bitwise)
      skipAfter (said "TO") (run .bitwise)
      skipAfter (said "STEP") (run .bitwise)
    return some (.ordered (some tree))

/-- An order. -/
def order : Parse Bool := do
  if ← word "ORDER BY" then
    skip (separated (run .ordered))
    return true
  else return false

/-- What may follow a number of rows. -/
def rowOptions : Parse Unit := do
  skip (take fun item => item.isWord "PERCENT" || item.isSymbol "%")
  skip (wordIn ["ROW", "ROWS"])
  skip (said "ONLY")
  skip (saidAll ["WITH", "TIES"])

/-- A limit to the number of rows. -/
def limit : Parse Bool := do
  if ← word "LIMIT" then
    unless ← word "ALL" do
      skip (orElse (attempt (run .term)) (run .factor))
      rowOptions
      if ← mark .comma then skip (run .term)
    return true
  else if ← word "FETCH" then
    skip (wordIn ["FIRST", "NEXT"])
    let counts (item : Item) : Bool :=
      item.isNameWord && !item.isWordIn ["ROW", "ROWS", "PERCENT"]
    match ← run .primary with
    | some _ => pure ()
    | none => skip (orElse (run (.call false true false)) (nameOf run false counts))
    rowOptions
    return true
  else return false

/-- A number of rows to leave out. -/
def offset : Parse Bool := do
  if ← word "OFFSET" then
    skip (run .term)
    skip (wordIn ["ROW", "ROWS"])
    return true
  else return false

/-- Whether nulls are counted. -/
def nullsWords : Parse Unit := do
  unless ← saidAll ["IGNORE", "NULLS"] do
    skip (saidAll ["RESPECT", "NULLS"])

/-- One end of a frame. -/
def frameEnd : Parse Unit := do
  skip (word "BETWEEN")
  unless ← said "UNBOUNDED" do
    unless ← saidAll ["CURRENT", "ROW"] do
      skip (run .bitwise)
  skip (saidIn ["FOLLOWING", "PRECEDING"])

/-- What may be excluded from a frame. -/
def frameExclusions : List (String × List (List String)) :=
  [("NO", [["OTHERS"]]), ("CURRENT", [["ROW"]]), ("GROUP", []), ("TIES", [])]

/-- A window in parentheses, from behind the first. -/
def windowFrame : Parse Unit := do
  skip (nameOf run false fun item => item.isNameWord && item.upper != "ROWS")
  skip (word "FIRST")
  skip (said "LAST")
  if ← word "PARTITION BY" then skip (separated (run .disjunction))
  skip (order run)
  if ← take fun item => item.isWordIn ["ROWS", "RANGE"] || item.spells "GROUPS" then
    skip (word "BETWEEN")
    frameEnd run
    skipAfter (word "AND") (frameEnd run)
    if ← said "EXCLUDE" then skip (optionIn frameExclusions)
  close

/-- The windows of a call: what it is grouped, filtered and taken over. -/
def window (tree : Option Tree) : Parse (Option Tree) := do
  let tree ←
    if ← saidAll ["WITHIN", "GROUP"] then
      skip (wrapped (order run))
      pure (some (.other "withingroup"))
    else pure tree
  let tree ←
    if ← takeAll [Item.isWord "FILTER", Item.isKind .openParen] then
      skip (word "WHERE")
      skip (run .assignment)
      close
      pure (some (.other "filter"))
    else pure tree
  nullsWords
  repeating
    (fun _ => do
      if ← word "OVER" then
        if ← mark .openParen then windowFrame run else skip (name run false)
        return some (some (.other "window"))
      else return none)
    tree

/-- A window with a name. -/
def namedWindow : Parse (Option Tree) := do
  skip (name run true)
  skip (word "AS")
  if ← mark .openParen then windowFrame run else skip (name run false)
  return some (.other "window")

end

end SchemaTypes.Sql.Grammar
