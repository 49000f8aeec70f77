import SchemaTypes.Sql.Grammar.Operand

/-!
# `SchemaTypes.Sql.Grammar.Expression`: operators

The operators bind in levels, from assignments and `or` down to signs. Of
an expression only the extent matters, so its tree is the name of a form.
An operator may lack an operand on either side.
-/

set_option autoImplicit false

namespace SchemaTypes.Sql.Grammar

open Parse

section
variable (run : Run)

/-- Operands with operators of one level between them. -/
def chain (operand : Parse (Option Tree)) (operator : Parse Bool) (form : String) :
    Parse (Option Tree) := do
  let first ← operand
  repeating
    (fun _ => do
      if ← operator then
        skip operand
        return some (some (.other form))
      else return none)
    first

/-- The time zones that a value is seen in. -/
def zones (tree : Option Tree) : Parse (Option Tree) :=
  repeating
    (fun _ => do
      if ← saidAll ["AT", "TIME", "ZONE"] then
        skip (run .unary)
        return some (some (.other "attimezone"))
      else return none)
    tree

/-- A sign or a negation with its operand, or an operand alone. -/
def unary : Parse (Option Tree) := do
  if ← take fun item =>
      item.isSymbolIn ["+", "-", "~", "|/", "||/"] || item.isWordIn ["RLIKE", "REGEXP"] then
    skip (run .unary)
    return some (.other "neg")
  else if ← take Item.isNot then
    skip (run .equality)
    return some (.other "not")
  else operand run true false

/-- A power. -/
def exponent : Parse (Option Tree) :=
  chain (unary run) (symbol "^") "pow"

/-- A product. Only its first operand may be seen in a time zone. -/
def factor : Parse (Option Tree) := do
  let first ← zones run (← exponent run)
  repeating
    (fun _ => do
      if ← symbolIn ["*", "/", "<->"] then
        skip (exponent run)
        return some (some (.other "mul"))
      else return none)
    first

/-- A sum. -/
def term : Parse (Option Tree) :=
  chain (factor run)
    (take fun item => item.isSymbolIn ["+", "-", "%"] || item.isWord "COLLATE") "add"

/-- An operator on bits or texts. -/
def bitwiseOperator : Parse Bool := do
  if ← symbolIn ["&", "|", "#", "||", "??"] then return true
  else if ← takeAll [Item.isSymbol "<", Item.isSymbol "<"] then return true
  else takeAll [Item.isSymbol ">", Item.isSymbol ">"]

/-- Operators on bits and texts. A default value reaches up to here. -/
def bitwise : Parse (Option Tree) :=
  chain (term run) bitwiseOperator "bitwise"

/-! ## Tests -/

/-- The operators that test an operand against another. -/
def isTestOperator (item : Item) : Bool :=
  item.isWordIn ["LIKE", "ILIKE", "GLOB", "RLIKE", "REGEXP", "SIMILAR TO", "OVERLAPS"] ||
    item.isSymbolIn ["~", "~*", "~~", "~~*", "~~~", "&&", "@@", "@>", "<@", "@?", "?&", "?|",
      "#-", "&<", "&>", "-|-", "^@"]

/-- The list or the query that an operand is looked for in. -/
def inList : Parse Unit := do
  if ← mark .openParen then
    skip (separated (orElse (run (.query false false true true)) (run .assignment)))
    close
  else if ← mark .openBracket then
    skip (separated (orElse (run (.query false false true true)) (run .assignment)))
    unless ← mark .closeBracket do fault
  else skip (run .column)

/-- What follows `is`. Nothing if it is no test. -/
def isTest : Parse Bool := do
  skip (take Item.isNot)
  if ← saidAll ["DISTINCT", "FROM"] then
    skip (bitwise run)
    return true
  else
    let found ←
      if ← word "JSON" then
        skip (saidIn ["VALUE", "SCALAR", "ARRAY", "OBJECT"])
        unless ← said "WITH" do skip (said "WITHOUT")
        skip (word "UNIQUE")
        skip (said "KEYS")
        pure true
      else if ← wordIn ["NULL", "UNKNOWN"] then pure true
      else pure (← bitwise run).isSome
    if found then skip (run (.suffixes (.other "is")))
    return found

/-- Operators by their names in parentheses, with their operands. -/
def operators : Parse Unit :=
  many do
    if ← mark .openParen then
      many (take fun item => item.kind != .closeParen)
      skip (mark .closeParen)
      skip (bitwise run)
      word "OPERATOR"
    else return false

/-- What follows the word or the symbol of a test, which has been taken.
Nothing if it is no test. -/
def testEnd (item : Item) : Parse Bool := do
  if item.isWord "BETWEEN" then
    unless ← said "SYMMETRIC" do skip (said "ASYMMETRIC")
    skip (bitwise run)
    skip (word "AND")
    skip (bitwise run)
    return true
  else if item.isWord "IN" then
    inList run
    return true
  else if item.isWord "IS" then isTest run
  else if item.isWord "OPERATOR" then
    operators run
    return true
  else if item.isWord "FOR" then
    skip (run .column)
    skipAfter (mark .comma) (run .column)
    if ← word "IN" then
      skip (run .column)
      skipAfter (said "IF") (run .assignment)
      return true
    else return false
  else
    skip (bitwise run)
    if ← word "ESCAPE" then
      skip (orElse (string run) (do
        if ← wordIn ["NULL", "UNKNOWN"] then return some (.other "null") else return none))
    return true

/-- Whether an item starts a test. -/
def startsTest (item : Item) : Bool :=
  item.isWordIn ["BETWEEN", "IN", "IS", "FOR", "OPERATOR"] || isTestOperator item

/-- One test of an operand, if there is one. -/
def test : Parse Bool := do
  let start ← get
  let negated ← take Item.isNot
  match ← peek with
  | some item =>
    if startsTest item then
      advance
      if ← testEnd run item then return true
      else
        set start
        return false
    else if item.isWord "ISNULL" || item.isWord "NOTNULL" ||
        (negated && item.isWord "NULL") then
      advance
      return true
    else return negated
  | none => return negated

/-- An operand with the tests after it. -/
def range : Parse (Option Tree) := do
  let first ← bitwise run
  repeating
    (fun _ => do
      if ← test run then return some (some (.other "test")) else return none)
    first

/-! ## Comparisons and connectives -/

/-- A comparison by size. -/
def comparison : Parse (Option Tree) :=
  chain (range run) (symbolIn [">", ">=", "<", "<="]) "comparison"

/-- A comparison by equality. A negation reaches up to here. -/
def equality : Parse (Option Tree) :=
  chain (comparison run) (symbolIn ["=", "==", "!=", "<>", "<=>"]) "equality"

/-- Conditions of which all hold. -/
def conjunction : Parse (Option Tree) :=
  chain (equality run) (word "AND") "and"

/-- Conditions of which some hold. -/
def disjunction : Parse (Option Tree) :=
  chain (conjunction run) (word "OR") "or"

/-- An expression that may be given to a name. -/
def assignment : Parse (Option Tree) := do
  let first ←
    match ← disjunction run with
    | some tree => pure (some tree)
    | none =>
      if ← secondIs (Item.isSymbol ":=") then
        advance
        pure (some (.other "column"))
      else pure none
  if ← symbol ":=" then
    skip (run .assignment)
    return some (.other "propertyeq")
  else return first

/-- An expression with an optional name. -/
def expression : Parse (Option Tree) := do
  aliased run false (← assignment run)

end

end SchemaTypes.Sql.Grammar
