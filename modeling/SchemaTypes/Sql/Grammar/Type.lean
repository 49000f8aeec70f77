import SchemaTypes.Sql.Grammar.Rule
import SchemaTypes.Sql.Lexer

/-!
# `SchemaTypes.Sql.Grammar.Type`: types

A type starts with a word for a built-in type or with the name of a type
that the schema declares. Arguments may follow in parentheses, then words
that belong to the type, and at the end brackets or the word for an
array. A quoted name that spells a built-in type means that type.

Where an expression may stand, the word for a type followed by
parentheses is taken for a call of a function unless a string follows.
-/

set_option autoImplicit false

namespace SchemaTypes.Sql.Grammar

open Parse

/-- The items of a quoted name read as source of its own. -/
def itemsOfName (d : Dialect) (name : String) : List Item :=
  match Lexer.tokens d.quotes name.toList with
  | .ok tokens => tokens.map Item.ofToken
  | .error _ => []

/-- The start of a type: one that more may belong to, or one that is
complete. -/
inductive TypeHead where
  | started (tree : Tree)
  | complete (tree : Tree)

/-- The type that a built-in word means. -/
def builtinType (upper : String) : TypeHead :=
  match typeWord? upper with
  | some name => .started (.dataType name [])
  | none => .complete .untypable

/-- The spelling of a type with the parts that follow after dots. A part
that is missing is left out together with its dot. -/
def dottedSpelling (spelling : String) : Parse String :=
  repeating
    (fun spelling => do
      if ← mark .dot then
        match ← peek with
        | some item =>
          if item.isFree then
            advance
            return some (spelling ++ "." ++ item.text)
          else return some spelling
        | none => return some spelling
      else return none)
    spelling

/-- A zoned type with the words that set its zone, and whether any were
read. -/
def zoneWords (name : String) : Parse (String × Bool) := do
  if ← saidAll ["WITH", "TIME", "ZONE"] then
    return (if name == "TIME" || name == "TIMETZ" then "TIMETZ" else "TIMESTAMPTZ", true)
  else if ← saidAll ["WITH", "LOCAL", "TIME", "ZONE"] then return ("TIMESTAMPLTZ", true)
  else if ← saidAll ["WITHOUT", "TIME", "ZONE"] then return (name, true)
  else return (name, false)

/-- Whether an item is a unit of an interval. -/
def isIntervalUnit (item : Item) : Bool :=
  intervalUnits.contains item.upper

section
variable (d : Dialect) (run : Run)

/-- What a quoted name means as a type. -/
def quotedType (item : Item) : Parse (Option TypeHead) := do
  let declared : Parse (Option TypeHead) := do
    if d.declaresTypes then return some (.started (.userDefined (← dottedSpelling item.text)))
    else return none
  match itemsOfName d item.text with
  | [] => declared
  | [first] => if first.isTypeWord then return some (builtinType first.upper) else declared
  | first :: more =>
    if first.isTypeWord then
      match ← aside (first :: more) (run (.type false true false)) with
      | some tree => return some (.complete tree)
      | none => refuse
    else declared

/-- The start of a type. -/
def typeHead (names : Bool) : Parse (Option TypeHead) := do
  match ← peek with
  | none => return none
  | some item =>
    if item.isTypeWord then
      advance
      return some (builtinType item.upper)
    else if !names then return none
    else if item.kind == .word && isPlainWord item.upper then
      if d.declaresTypes then
        advance
        return some (.started (.userDefined (← dottedSpelling item.text)))
      else return none
    else if item.kind == .name then
      let start ← get
      advance
      match ← quotedType d run item with
      | some tree => return some tree
      | none =>
        set start
        return none
    else
      let _ ← placeholder run
      return none

/-- A type argument. -/
def typeSize : Parse (Option Tree) := do
  match ← run (.operand true false) with
  | some tree =>
    skip (anyWord run)
    return some tree
  | none => return none

/-- The element type of a vector is given by the name of its first
argument, which has to be a type. -/
def vectorElement (argument : Tree) : Parse Unit := do
  let type ← aside (itemsOfName d argument.name) (run (.type false true false))
  if type.isNone then refuse

/-- A field of a type that has fields. -/
def typeField : Parse (Option Tree) := do
  let start ← get
  let twoTypes := (← nextIs Item.isTypeWord) && (← secondIs Item.isTypeWord)
  let head ←
    if twoTypes then name run true
    else orElse (run (.operand false true)) (name run true)
  skip (symbol ":")
  let isType :=
    match head with
    | some (.dataType _ _) => true
    | some (.userDefined _) => true
    | _ => false
  if isType || (← nextIs Item.isTypeWord) then run (.columnEnd head)
  else
    set start
    run (.type false false true)

/-- The arguments of a type in parentheses. Nothing if they are not
closed. -/
def typeArguments (typeName : String) (check schema names : Bool) :
    Parse (Option (List Tree)) := do
  let arguments ←
    if fieldTypes.contains typeName then separated (run .typeField)
    else if nestedTypes.contains typeName then separated (run (.type check schema names))
    else if typeName = "ENUM" then separated (run .equality)
    else separated (typeSize run)
  match typeName, arguments with
  | "VECTOR", [element, _] => vectorElement d run element
  | _, _ => pure ()
  if ← mark .closeParen then return some arguments else return none

/-- The arguments of a type in angle brackets, and whether values for it
follow. -/
def angleArguments (typeName : String) (check schema names : Bool) :
    Parse (List Tree × Bool) := do
  let fields := fieldTypes.contains typeName
  let arguments ←
    if fields then separated (run .typeField) else separated (run (.type check schema names))
  unless ← symbol ">" do fault
  let before ← get
  if ← take fun item => item.kind == .openBracket || item.kind == .openParen then
    let values ← separated (run .disjunction)
    if values.isEmpty && fields then
      set before
      return (arguments, false)
    else
      skip (take fun item => item.kind == .closeBracket || item.kind == .closeParen)
      return (arguments, true)
  else return (arguments, false)

/-- The words after a type that belong to it: its tree, and whether they
settle that it is no call. -/
def typeWords (head : Tree) (arguments : List Tree) : Parse (Tree × Bool) := do
  match head with
  | .dataType name _ =>
    if zonedTypes.contains name then
      let (zoned, settled) ← zoneWords name
      return (.dataType zoned arguments, settled)
    else if name = "INTERVAL" then
      if ← nextIs isIntervalUnit then
        skip (plainWord run)
        if ← said "TO" then skip (plainWord run)
        return (.untypable, false)
      else return (.dataType name arguments, false)
    else return (.dataType name arguments, false)
  | other => return (other, false)

/-- The word that makes a number type unsigned. -/
def unsignedWord (tree : Tree) : Parse Tree := do
  match tree with
  | .dataType name arguments =>
    if ← said "UNSIGNED" then
      match unsignedTypes.lookup name with
      | some unsigned => return .dataType unsigned arguments
      | none =>
        fault
        return tree
    else return tree
  | _ => return tree

/-- The brackets and words behind a type that make it an array, from the
place `start` behind the type on. With `opened` set the word for an array
was read. -/
def arrayLevels (schema : Bool) (start : Place) : Nat → Bool → Tree → Parse Tree
  | 0, _, tree => return tree
  | fuel + 1, opened, tree => do
    let afterArray ← lastWas (Item.isWord "ARRAY")
    if ← atEnd then return tree
    let bracket ← mark .openBracket
    if !bracket && !opened then return tree
    if afterArray then
      if ← mark .closeBracket then return tree
    let lengths ← separated (run .disjunction)
    if !lengths.isEmpty && !schema then
      set start
      return tree
    skip (mark .closeBracket)
    arrayLevels schema start fuel false (.dataType "ARRAY" [tree])

/-- What makes a list or an array of a type. -/
def typeLevels (schema : Bool) (tree : Tree) : Parse Tree := do
  let tree ← repeating
    (fun tree => do
      if ← word "LIST" then return some (.dataType "LIST" [tree]) else return none)
    tree
  let start ← get
  let opened ← word "ARRAY"
  arrayLevels run schema start ((← get).size + 2) opened tree

/-- A type after its start. -/
def typeEnd (start : Place) (head : Tree) (check schema names : Bool) :
    Parse (Option Tree) := do
  let typeName :=
    match head with
    | .dataType name _ => name
    | _ => ""
  let nested := nestedTypes.contains typeName || fieldTypes.contains typeName
  let giveUp : Parse (Option Tree) := do
    set start
    return none
  let called ← mark .openParen
  let arguments? ←
    if called then typeArguments d run typeName check schema names else pure (some [])
  match arguments? with
  | none => giveUp
  | some arguments =>
    if typeName = "NULLABLE" && called && arguments.length = 1 then return arguments.head?
    else
      let angled ← if nested then symbol "<" else pure false
      let (arguments, valued) ←
        if angled then angleArguments run typeName check schema names else pure (arguments, false)
      let (tree, settled) ← typeWords run head arguments
      let quoted ← ahead (string run)
      if called && check && !settled && !quoted then giveUp
      else
        let tree ← unsignedWord tree
        if typeName = "NULLABLE" && arguments.isEmpty then giveUp
        else if valued then return some (← typeLevels run schema (.other "cast"))
        else return some (← typeLevels run schema tree)

/-- The types of the keys and of the values of a map, in brackets. -/
def mapTypes (start : Place) (check schema names : Bool) : Parse (Option Tree) := do
  let keys ← run (.type check schema names)
  if ← symbol "=>" then
    let values ← run (.type check schema names)
    if ← mark .closeBracket then return some (.dataType "MAP" (keys.toList ++ values.toList))
    else
      set start
      return none
  else
    set start
    return none

/-- A type. -/
def type (check schema names : Bool) : Parse (Option Tree) := do
  let start ← get
  skip (saidAll ["SYSUDTLIB", "."])
  match ← typeHead d run names with
  | none => return none
  | some (.complete tree) => return some tree
  | some (.started head) =>
    let isMap := head == .dataType "MAP" []
    if isMap && (← nextIs (Item.isKind .openBracket)) then
      advance
      mapTypes run start check schema names
    else typeEnd d run start head check schema names

end

end SchemaTypes.Sql.Grammar
