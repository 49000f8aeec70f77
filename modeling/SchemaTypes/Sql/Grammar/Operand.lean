import SchemaTypes.Sql.Grammar.Clause

/-!
# `SchemaTypes.Sql.Grammar.Operand`: what operators work on

An operand is a literal, a call, a column, an interval, a literal with
its type in front, or anything in parentheses. Subscripts, fields and
casts may follow it.
-/

set_option autoImplicit false

namespace SchemaTypes.Sql.Grammar

open Parse

/-- Whether a text holds an amount with its unit, such as `1 day`. -/
def hasUnit : List Char → Bool
  | [] => false
  | c :: rest =>
    let afterDigits := rest.dropWhile Char.isDigit
    let afterFraction :=
      match afterDigits with
      | '.' :: d :: more => if d.isDigit then more.dropWhile Char.isDigit else afterDigits
      | _ => afterDigits
    let unit := (afterFraction.dropWhile Text.isBlank).head?
    (c.isDigit && unit.any Char.isAlpha) || hasUnit rest

/-- Whether a text starts with a number of days and a time, such as
`1 2:03`. -/
def hasDayTime (text : List Char) : Bool :=
  let unsigned :=
    match text.dropWhile Text.isBlank with
    | '-' :: rest => rest.dropWhile Text.isBlank
    | rest => rest
  let afterDays := (unsigned.dropWhile Char.isDigit).dropWhile fun c => c == '.' || c.isDigit
  let afterBlanks := afterDays.dropWhile Text.isBlank
  let time :=
    match afterBlanks with
    | '-' :: rest => rest
    | rest => rest
  match time.dropWhile Char.isDigit with
  | ':' :: c :: _ =>
    c.isDigit && time.head?.any Char.isDigit && unsigned.head?.any Char.isDigit &&
      afterBlanks.length < afterDays.length
  | _ => false

/-- The letters that lead a date or a time in braces. -/
def bracedTimes : List String := ["D", "T", "TS"]

/-- The names that make a constructor of the brackets behind them. -/
def constructors : List String := ["ARRAY", "LIST"]

section
variable (run : Run)

/-! ## Subscripts, fields and casts -/

/-- An entry between brackets: an expression with its name or a range. -/
def entry : Parse (Option Tree) := do
  let tree ← aliased run true (← run .assignment)
  if ← symbol ":" then
    let open? := (← nextIs (Item.isSymbol "-")) && (← secondIs (Item.isSymbol ":"))
    if open? then advance else skip (run .assignment)
    skipAfter (symbol ":") (run .unary)
    return some (.other "slice")
  else return tree

/-- One pair of brackets or braces after an operand, if there is one, and
whether more may follow. -/
def bracket (head : Option Tree) : Parse (Option (Tree × Bool)) := do
  if ← mark .openBracket then
    skip (separated (entry run))
    unless ← mark .closeBracket do fault
    match head with
    | none => return some (.other "array", true)
    | some tree =>
      if constructors.contains (Text.upper tree.name) then return some (.other "array", false)
      else return some (.other "bracket", true)
  else if ← symbol "\x7b" then
    if ← nextIs fun item => item.kind == .word && bracedTimes.contains item.upper then
      advance
      skip (string run)
      unless ← symbol "\x7d" do fault
      return some (.other "date", false)
    else
      skip (separated (entry run))
      unless ← symbol "\x7d" do fault
      return some (.other "struct", true)
  else return none

/-- The brackets and braces after an operand. -/
def brackets (head : Option Tree) : Parse (Option Tree) := do
  let (tree, _) ← repeating
    (fun (tree, more) => do
      if more then
        match ← bracket run tree with
        | some (tree, more) => return some (some tree, more)
        | none => return none
      else return none)
    (head, true)
  return tree

/-- A column by its name, or what else stands for a value. -/
def columnReference : Parse (Option Tree) := do
  let quoted ← nextIs (Item.isKind .name)
  let tree ← run (.field false)
  let tree ←
    match tree with
    | some tree => pure (some tree)
    | none =>
      let isWord ← nextIs (Item.isWord "VALUES")
      let opens ← secondIs (Item.isKind .openParen)
      if isWord && !opens then name run true else pure none
  match tree with
  | some (.identifier name) =>
    return some (if quoted then .other "column" name else .column name)
  | other => return other

/-- One field or cast after an operand, if there is one. -/
def suffix (tree : Tree) : Parse (Option Tree) := do
  if ← symbolIn ["::", "?::"] then
    if (← run (.type false false true)).isNone then fault
    return some (.other "cast" tree.name)
  else if ← mark .dot then
    let field ← orElse (run (.call true true true)) (orElse (run .primary) (name run true))
    let form :=
      match tree with
      | .column _ => "column"
      | .other "column" _ => "column"
      | _ => "dot"
    return some (.other form ((field.map Tree.name).getD ""))
  else if ← symbolIn ["->", "->>", "#>", "#>>", "?"] then
    match ← orElse (columnReference run) (run .bitwise) with
    | some field =>
      if field.form == "column" && (← nextIs (Item.isKind .dot)) then
        skip (run (.suffixes field))
    | none => pure ()
    return some (.other "jsonextract")
  else return none

/-- The subscripts, fields and casts after an operand. -/
def suffixes (head : Tree) : Parse (Option Tree) := do
  let subscripted ← brackets run (some head)
  repeating
    (fun tree => do
      match ← suffix run (tree.getD head) with
      | some tree => return some (← brackets run (some tree))
      | none => return none)
    subscripted

/-- A column with what follows it. -/
def column : Parse (Option Tree) := do
  match ← columnReference run with
  | some tree => suffixes run tree
  | none => brackets run none

/-! ## Intervals -/

/-- A unit of an interval. -/
def intervalUnit : Parse Bool := do
  match ← run (.call false true false) with
  | some _ => return true
  | none => take isUnit
where
  isUnit (item : Item) : Bool :=
    item.isFree && intervalUnits.contains item.upper

/-- An interval. A unit that the text of the interval has already does
not belong to it. -/
def interval (led : Bool) : Parse (Option Tree) := do
  let start ← get
  let leads ← word "INTERVAL"
  if led && !leads then
    set start
    return none
  let quoted ← nextIs (Item.isKind .text)
  let amount ← if quoted then run .primary else run .term
  let isUnit ← nextIs fun item => intervalUnits.contains item.upper
  let refused ←
    match amount with
    | none => pure true
    | some (.column _) => pure (!isUnit && !(← atEnd))
    | some _ => pure false
  if refused then
    set start
    return none
  let text :=
    match amount with
    | some (.literal text) => if quoted then text.toList else []
    | _ => []
  let before ← get
  let spans ←
    if hasDayTime text then
      ahead do
        let first ← anyWord run
        let leads ← said "TO"
        let second ← anyWord run
        return if first.isSome && leads && second.isSome then some () else none
    else pure true
  if spans then
    if ← intervalUnit run then
      if hasUnit text then set before
  if ← said "TO" then
    skip (orElse (run (.call false true false)) (anyWord run))
  let after ← get
  skip (symbol "+")
  if ← nextIs fun item => item.kind == .text || item.kind == .number then
    skip (run (.interval false))
    return some (.other "add")
  else
    set after
    return some (.other "interval")

/-! ## Operands -/

/-- The name of the form of a string. -/
def textForm : TextForm → String
  | .national => "national"
  | .bits => "bitstring"
  | .hex => "hexstring"
  | .escaped => "bytestring"
  | .unicode => "unicodestring"
  | .dollar => "rawstring"

/-- What may follow a star: the columns that it leaves out or changes. -/
def starOptions : Parse Unit := do
  for words in [["EXCEPT", "EXCLUDE"], ["REPLACE"], ["RENAME"]] do
    if ← saidIn words then
      if ← nextIs (Item.isKind .openParen) then skip (list (run .expression))
      else skip (run .expression)

/-- The forms of queries that are not in parentheses. -/
def queryForms : List String := ["select", "union", "except", "intersect"]

/-- What stands in parentheses, from behind the first. -/
def parenthesized : Parse Tree := do
  let query ← run (.query false false true true)
  let items ←
    match query with
    | some tree => pure [tree]
    | none => separated (run .expression)
  let afterComma ← lastWas (Item.isKind .comma)
  let closes ← nextIs (Item.isKind .closeParen)
  let tree ←
    match items with
    | [] => pure (.other (if closes || afterComma then "tuple" else "paren"))
    | first :: more =>
      if queryForms.contains first.form then pure (.other "subquery")
      else if first.form == "subquery" || first.form == "values" then
        skip (run (.queryEnd first))
        pure (.other "subquery")
      else if !more.isEmpty || afterComma then pure (.other "tuple")
      else pure (.other "paren")
  close
  return tree

/-- A literal, a star, or anything in parentheses. -/
def primary : Parse (Option Tree) := do
  match ← peek with
  | none => return none
  | some item =>
    match item.kind with
    | .text =>
      advance
      if ← mark .text then
        many (mark .text)
        return some (.other "concat")
      else return some (.literal item.text)
    | .number =>
      advance
      return some (.literal item.text)
    | .otherText form =>
      advance
      return some (.other (textForm form) item.text)
    | .symbol =>
      if ← symbol "*" then
        starOptions run
        return some (.other "star" "*")
      else return none
    | .word =>
      if ← word "NULL" then return some (.other "null" "NULL")
      else if ← wordIn ["TRUE", "FALSE"] then return some (.other "boolean")
      else return none
    | .dot =>
      if ← secondIs (Item.isKind .number) then
        advance
        let digits ← peek
        advance
        return some (.literal ("0." ++ (digits.map Item.text).getD ""))
      else return none
    | .openParen =>
      advance
      return some (← parenthesized run)
    | _ => return none

/-- A literal, a call or a name. With `any` set every word will do for the
name. -/
def field (any : Bool) : Parse (Option Tree) :=
  orElse (primary run) (orElse (run (.call any true false)) (name run any))

/-- An interval, a literal with its type in front, or a column. -/
def operand (intervals orName : Bool) : Parse (Option Tree) := do
  match ← if intervals then run (.interval true) else pure none with
  | some tree => suffixes run tree
  | none =>
    let start ← get
    let typed ←
      match ← run (.type true false false) with
      | none => pure none
      | some type =>
        let after ← get
        if type.form == "cast" then suffixes run type
        else
          match ← primary run with
          | some (.literal text) =>
            skip (suffixes run (.literal text))
            pure (some (.other "cast" text))
          | _ =>
            let hasArguments :=
              match type with
              | .dataType _ (_ :: _) => true
              | _ => false
            if hasArguments && after.rest.length + 1 < start.rest.length then
              set after
              suffixes run type
            else
              set start
              pure none
    match typed with
    | some tree => return some tree
    | none =>
      if orName then name run true
      else
        match ← column run with
        | some tree => suffixes run tree
        | none => return none

end

end SchemaTypes.Sql.Grammar
