import SchemaTypes.Sql.Grammar.Clause
import SchemaTypes.Sql.Grammar.Function

/-!
# `SchemaTypes.Sql.Grammar.Call`: calls of functions

Most calls have arguments with commas between them. Some functions have a
syntax of their own inside the parentheses, and a few words are calls
without any.
-/

set_option autoImplicit false

namespace SchemaTypes.Sql.Grammar

open Parse

/-- The functions that shift a date. -/
def dateShifts : List String := ["DATE_ADD", "DATE_SUB", "ADDDATE", "SUBDATE"]

/-- The words that test an operand against the rows of a query. -/
def rowTests : List String := ["ALL", "ANY", "EXISTS", "SOME"]

section
variable (d : Dialect) (run : Run)

/-! ## Calls without parentheses -/

/-- The branches of a choice. -/
def branches : Parse Unit :=
  many do
    if ← word "WHEN" then
      skip (run .assignment)
      skip (word "THEN")
      skip (run .assignment)
      return true
    else return false

/-- A call that needs no parentheses, from behind its word. -/
def bareCall? (upper : String) : Option (Parse (Option Tree)) :=
  match upper with
  | "ANY" => some do
    skip (run .bitwise)
    return some (.other "any")
  | "CASE" => some do
    if ← nextIs (Item.isKind .dot) then return none
    else
      skip (run .assignment)
      branches run
      skipAfter (word "ELSE") (run .assignment)
      unless ← word "END" do fault
      return some (.other "case")
  | "CONNECT_BY_ROOT" => some do
    skip (run .column)
    return some (.other "connectbyroot")
  | "NEXT" => some do
    if ← saidAll ["VALUE", "FOR"] then
      skip (run .column)
      skipAfter (word "OVER") (wrapped (order run))
      return some (.other "nextvaluefor")
    else return none
  | "VARIADIC" => some do
    skip (run .bitwise)
    return some (.other "variadic")
  | _ => none

/-! ## Arguments -/

/-- A query, or an expression, which may have a name if `named` is set. -/
def queryOrExpression (named : Bool) : Parse (Option Tree) := do
  match ← run (.query false false true true) with
  | some tree => return some tree
  | none =>
    let tree ← run .assignment
    if named then aliased run true tree else return tree

/-- An argument of a call: a function of its own, an argument with its
name in front, or a plain one. -/
def argument (named : Bool) : Parse (Option Tree) := do
  let start ← get
  if ← mark .openParen then
    skip (separated (name run true))
    unless ← mark .closeParen do set start
  else skip (name run true)
  if ← symbolIn ["->", "=>"] then
    skip (run .assignment)
    return some (.other "lambda")
  set start
  let tree ←
    if ← word "DISTINCT" then
      skip (separated (run .assignment))
      pure (some (.other "distinct"))
    else queryOrExpression run named
  nullsWords
  if ← word "HAVING" then
    skip (saidIn ["MAX", "MIN"])
    skip (run .column)
  skip (order run)
  skip (limit run)
  return tree

/-! ## Calls with a syntax of their own -/

/-- A conversion to a type, from behind the opening parenthesis. -/
def castArguments : Parse Unit := do
  skip (run .assignment)
  let leads ← word "AS"
  let listed ← if leads then pure false else mark .comma
  if listed then skip (string run)
  else
    unless leads do fault
    let type ← run (.type false false true)
    if ← word "DEFAULT" then
      skip (run .bitwise)
      skip (saidAll ["ON", "CONVERSION", "ERROR"])
    if ← take fun item => item.isWord "FORMAT" || item.isKind .comma then
      skip (string run)
      skipAfter (saidAll ["AT", "TIME", "ZONE"]) (run .unary)
    else if type.isNone then fault

/-- A part of a text, from behind the opening parenthesis. -/
def substringArguments : Parse Unit := do
  skip (separated (run .bitwise))
  many do
    if ← wordIn ["FROM", "FOR"] then
      skip (run .bitwise)
      return true
    else return false

/-- A text without blanks around it, from behind the opening
parenthesis. -/
def trimArguments : Parse Unit := do
  skip (saidIn ["LEADING", "TRAILING", "BOTH"])
  skip (run .bitwise)
  if ← take fun item => item.isWord "FROM" || item.isKind .comma then skip (run .bitwise)
  skipAfter (word "COLLATE") (run .bitwise)

/-- Texts joined together, from behind the opening parenthesis. -/
def joinedArguments : Parse Unit := do
  if ← word "DISTINCT" then
    skip (run .assignment)
    skipAfter (mark .comma) (separated (run .assignment))
  else skip (separated (run .assignment))
  if ← saidAll ["ON", "OVERFLOW"] then
    unless ← said "ERROR" do
      skip (said "TRUNCATE")
      skip (string run)
      unless ← saidAll ["WITH", "COUNT"] do skip (saidAll ["WITHOUT", "COUNT"])
  let start ← get
  if ← mark .closeParen then
    if ← saidAll ["WITHIN", "GROUP"] then
      skip (mark .openParen)
      skip (order run)
    else set start
  else
    skip (order run)
    skip (limit run)

/-- The pairs of an object, from behind the opening parenthesis. -/
def objectArguments : Parse Unit := do
  let pair : Parse (Option Tree) := do
    skip (said "KEY")
    let key ← run .column
    skip (take fun item => item.isSymbol ":" || item.isKind .comma || item.isWord "IS")
    skip (said "VALUE")
    let value ← run .bitwise
    skip (saidAll ["FORMAT", "JSON"])
    return key <|> value
  unless ← symbol "*" do skip (separated pair)
  unless ← saidAll ["NULL", "ON", "NULL"] do skip (saidAll ["ABSENT", "ON", "NULL"])
  unless ← saidAll ["WITH", "UNIQUE"] do skip (saidAll ["WITHOUT", "UNIQUE"])
  skip (said "KEYS")
  skipAfter (said "RETURNING") (run (.operand true false))
  skipAfter (said "ENCODING") (plainWord run)

/-- What stands in the parentheses of a function that has a syntax of its
own, and the name of its form. -/
def ownArguments? (upper : String) : Option (String × Parse Unit) :=
  match upper with
  | "CAST" => some ("cast", castArguments run)
  | "TRY_CAST" | "SAFE_CAST" => some ("trycast", castArguments run)
  | "CONVERT" | "TRY_CONVERT" => some ("cast", do
    skip (run .bitwise)
    if ← word "USING" then skip (plainWord run)
    else if ← mark .comma then skip (run (.type false false true)))
  | "CEIL" | "FLOOR" => some (if upper == "CEIL" then "ceil" else "floor", do
    skip (separated (run (.argument false)))
    skipAfter (said "TO") (plainWord run))
  | "CHAR" | "CHR" => some ("chr", do
    skip (separated (run .assignment))
    skipAfter (word "USING") (plainWord run))
  | "DATE_PART" => some ("extract", do
    skip (run (.operand true false))
    skip (mark .comma)
    skip (run .bitwise))
  | "EXTRACT" => some ("extract", do
    skip (orElse (run (.call false true false)) (wordOrString run))
    unless ← word "FROM" do
      unless ← mark .comma do fault
    skip (run .bitwise))
  | "JSON_AGG" => some ("jsonarrayagg", do
    skip (run (.argument false))
    skip (order run))
  | "JSON_OBJECT" => some ("jsonobject", objectArguments run)
  | "JSON_OBJECTAGG" => some ("jsonobjectagg", objectArguments run)
  | "NORMALIZE" => some ("normalize", do
    skip (run .bitwise)
    skipAfter (mark .comma) (plainWord run))
  | "OVERLAY" => some ("overlay", do
    skip (run .bitwise)
    for lead in ["PLACING", "FROM", "FOR"] do
      skipAfter (take fun item => item.isKind .comma || item.spells lead) (run .bitwise))
  | "POSITION" => some ("strposition", do
    skip (separated (run .bitwise))
    skipAfter (word "IN") (run .bitwise))
  | "STRING_AGG" => some ("groupconcat", joinedArguments run)
  | "SUBSTRING" => some ("substring", substringArguments run)
  | "TRIM" => some ("trim", trimArguments run)
  | "XMLELEMENT" => some ("xmlelement", do
    skipAfter (said "NAME") (name run true)
    skipAfter (mark .comma) (separated (run .expression)))
  | _ => none

/-! ## Calls -/

/-- The query or the list that a word like `all` is applied to, from
behind the opening parenthesis. `start` is the place before it. -/
def rowTest (start : Place) (afterLike : Bool) : Parse (Option Tree) := do
  if ← nextIs (Item.isWordIn ["SELECT", "WITH", "FROM"]) then
    let tree ← run (.query false false true true)
    close
    return tree
  else if afterLike then
    let inside ← get
    set start
    match ← run .bitwise with
    | some tree => return some tree
    | none =>
      set inside
      return none
  else return none

/-- The arguments of a call by its name and what follows them. -/
def callArguments (item : Item) (anonymous : Bool) : Parse (Option Tree) := do
  match if anonymous then none else ownArguments? run item.upper with
  | some (form, reading) =>
    reading
    close
    window run (some (.other form))
  | none =>
    let known := if anonymous then none else functionForm? item.upper
    let arguments ← separated (run (.argument known.isNone))
    let form := known.map fun form => (shortForms.lookup (form, arguments.length)).getD form
    let shifted :=
      match arguments with
      | _ :: second :: _ => second.form == "interval"
      | _ => true
    if d.shiftsByInterval && dateShifts.contains item.upper && !shifted then refuse
    else
      close
      window run
        (some
          (match form with
          | some form => .other form
          | none => .other "anonymous" item.text))

/-- A call by the item that names it. -/
def callOf (item : Item) (any bare anonymous : Bool) : Parse (Option Tree) := do
  let start ← get
  let isWord := item.kind == .word
  match if bare && isWord then bareCall? run item.upper else none with
  | some reading =>
    advance
    match ← reading with
    | some tree => window run (some tree)
    | none =>
      set start
      return none
  | none =>
    if ← secondIs (Item.isKind .openParen) then
      let callable :=
        if any then item.isFree else item.kind == .name || (isWord && isCallWord item.upper)
      if !callable then return none
      else
        let afterLike ← lastWas (Item.isWordIn ["LIKE", "ILIKE"])
        advance
        let before ← get
        advance
        let tested ←
          if !anonymous && isWord && rowTests.contains item.upper then rowTest run before afterLike
          else pure none
        match tested with
        | some _ => return some (.other item.upper.toLower)
        | none => callArguments d run item anonymous
    else
      match if bare && isWord then bareFunctions.lookup item.upper else none with
      | some form =>
        advance
        return some (.other form)
      | none => return none

/-- A call of a function. -/
def call (any bare anonymous : Bool) : Parse (Option Tree) := do
  let braced ← takeAll [Item.isSymbol "\x7b", fun item => item.upper == "FN"]
  let tree ←
    match ← peek with
    | some item => callOf d run item any bare anonymous
    | none => pure none
  if braced then skip (symbol "\x7d")
  return tree

end

end SchemaTypes.Sql.Grammar
