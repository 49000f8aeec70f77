import SchemaTypes.Generate.Artifact
import SchemaTypes.Text.Quoted
import SchemaTypes.Text.Word

/-!
# `SchemaTypes.Command.Arguments`: the command line

Arguments are sorted first: each is an option, perhaps with a value after
an equals sign, or a value. An option may be shortened as long as only
one begins that way. After a bare `--` everything is a value. Then each
option takes as many values as it wants from those that follow it, and
what nothing takes is refused.
-/

set_option autoImplicit false

namespace SchemaTypes.Command

/-- The options of the command. -/
inductive Flag where
  | help
  | sql
  | sqlFile
  | typeMapFile
  | clearTypeMap
  | insertSuffix
  | dialect
  | out
  | output (kind : ArtifactKind)
  | verbose
  | silent
deriving Repr, DecidableEq, Inhabited

/-- The values that an option wants. -/
inductive Arity where
  | none
  | one
  | some
deriving Repr, DecidableEq, Inhabited

namespace Flag

/-- The values that an option wants. -/
def arity : Flag → Arity
  | .help => .none
  | .clearTypeMap => .none
  | .verbose => .none
  | .silent => .none
  | .insertSuffix => .one
  | .dialect => .one
  | _ => .some

/-- The spellings of all options, in the order in which they are listed. -/
def spellings : List (String × Flag) :=
  [("-h", .help), ("--help", .help), ("--sql", .sql), ("--sql-file", .sqlFile),
   ("--type-map-file", .typeMapFile), ("--clear-type-map", .clearTypeMap),
   ("--insert-suffix", .insertSuffix), ("--dialect", .dialect), ("--out", .out),
   ("--ts-out", .output .typeScript), ("--zod-out", .output .zod),
   ("--convo-out", .output .convo), ("--type-map-out", .output .typeMap),
   ("--table-map-out", .output .tableMap), ("--ts-table-map-out", .output .tableMapModule),
   ("--type-list-out", .output .typeList), ("--type-list-short-out", .output .shortTypeList),
   ("--type-index-out", .output .typeIndex), ("--parsed-sql-out", .output .declarations),
   ("--barrel-out", .output .barrel), ("--verbose", .verbose), ("--silent", .silent)]

/-- The option with a spelling. -/
def ofText? (text : String) : Option Flag :=
  spellings.lookup text

/-- The name of an option in messages: its spellings. -/
def text (flag : Flag) : String :=
  Text.joinWith "/" ((spellings.filter fun entry => entry.2 == flag).map Prod.fst)

end Flag

/-- What is wrong with a command line. -/
inductive UsageError where
  | ambiguous (argument : String) (candidates : List String)
  | needsOne (flag : Flag)
  | needsSome (flag : Flag)
  | takesNone (flag : Flag) (value : String)
  | unrecognized (arguments : List String)
  | noSource
deriving Repr, DecidableEq, Inhabited

/-- What is said of a wrong command line. -/
def UsageError.message : UsageError → String
  | .ambiguous argument candidates =>
    "ambiguous option: " ++ argument ++ " could match " ++ Text.joinWith ", " candidates
  | .needsOne flag => "argument " ++ flag.text ++ ": expected one argument"
  | .needsSome flag => "argument " ++ flag.text ++ ": expected at least one argument"
  | .takesNone flag value =>
    "argument " ++ flag.text ++ ": ignored explicit argument " ++ Text.quoted value
  | .unrecognized arguments => "unrecognized arguments: " ++ Text.joinWith " " arguments
  | .noSource => "at least one of --sql or --sql-file is required"

/-- An argument of the command line. -/
inductive Word where
  | value (text : String)
  /-- An option. `short` tells the spelling with one dash; a value may be
  attached. -/
  | option (flag : Flag) (short : Bool) (attached : Option String)
  /-- What looks like an option but is none. -/
  | unknown (text : String)
  /-- The bare `--`, with everything after it. -/
  | rest (texts : List String)
deriving Repr, DecidableEq, Inhabited

/-- The text before and after the first equals sign, if there is one. -/
def splitEquals (text : String) : String × Option String :=
  let before := text.toList.takeWhile (· != '=')
  if before.length < text.toList.length then
    (String.ofList before, some (String.ofList (text.toList.drop (before.length + 1))))
  else (text, none)

/-- Whether a text without its minus sign is a decimal number. A newline
at its end does not count. -/
def isNumber (text : List Char) : Bool :=
  let text := if text.getLast? == some '\n' then text.dropLast else text
  let whole := text.takeWhile Text.isDecimalChar
  match text.drop whole.length with
  | [] => !whole.isEmpty
  | '.' :: fraction => !fraction.isEmpty && fraction.all Text.isDecimalChar
  | _ => false

/-- The options that an argument may be short for, with what is attached
to it. -/
def candidates (text : String) : List (String × Flag × Bool × Option String) :=
  match text.toList with
  | '-' :: '-' :: _ =>
    let (start, attached) := splitEquals text
    (Flag.spellings.filter fun entry => start.toList.isPrefixOf entry.1.toList).map fun entry =>
      (entry.1, entry.2, false, attached)
  | '-' :: c :: rest =>
    Flag.spellings.filterMap fun entry =>
      if entry.1.toList == ['-', c] then
        some (entry.1, entry.2, true, some (String.ofList rest))
      else if text.toList.isPrefixOf entry.1.toList then
        some (entry.1, entry.2, true, none)
      else none
  | _ => []

/-- Sorts an argument that starts with a dash and spells no option out. -/
def guess (text : String) : Except UsageError Word :=
  match candidates text with
  | [] =>
    if isNumber text.toList.tail || text.toList.contains ' ' then .ok (.value text)
    else .ok (.unknown text)
  | [(_, flag, short, attached)] => .ok (.option flag short attached)
  | several => .error (.ambiguous text (several.map Prod.fst))

/-- Sorts one argument. -/
def classify (text : String) : Except UsageError Word :=
  match text.toList with
  | '-' :: c :: _ =>
    let (start, attached) := splitEquals text
    match Flag.ofText? text, Flag.ofText? start with
    | some flag, _ => .ok (.option flag (c != '-') none)
    | none, some flag => .ok (.option flag (c != '-') attached)
    | none, none => guess text
  | _ => .ok (.value text)

/-- Sorts all arguments. -/
def classifyAll : List String → Except UsageError (List Word)
  | [] => .ok []
  | text :: texts =>
    if text == "--" then .ok [.rest (text :: texts)]
    else do
      let word ← classify text
      let words ← classifyAll texts
      return word :: words

/-- What the command is told. -/
structure Arguments where
  inline : List String := []
  sourceFiles : List String := []
  typeMapFiles : List String := []
  clearTypeMap : Bool := false
  suffix : Option String := none
  dialect : Option String := none
  directories : List String := []
  outputs : List (ArtifactKind × String) := []
  verbose : Bool := false
  silent : Bool := false
deriving Repr, DecidableEq, Inhabited

/-- The arguments with one option taken into account. Values add up over
several uses of an option that takes more than one. -/
def Arguments.set (a : Arguments) (flag : Flag) (values : List String) : Arguments :=
  match flag with
  | .help => a
  | .sql => { a with inline := a.inline ++ values }
  | .sqlFile => { a with sourceFiles := a.sourceFiles ++ values }
  | .typeMapFile => { a with typeMapFiles := a.typeMapFiles ++ values }
  | .clearTypeMap => { a with clearTypeMap := true }
  | .insertSuffix => { a with suffix := values.head? <|> a.suffix }
  | .dialect => { a with dialect := values.head? <|> a.dialect }
  | .out => { a with directories := a.directories ++ values }
  | .output kind => { a with outputs := a.outputs ++ values.map fun value => (kind, value) }
  | .verbose => { a with verbose := true }
  | .silent => { a with silent := true }

/-- The values at the front of the arguments. -/
def leadingValues : List Word → List String
  | .value text :: words => text :: leadingValues words
  | _ => []

/-- What the command is asked to do. -/
inductive Order where
  | help
  | generate (arguments : Arguments)
deriving Repr, DecidableEq, Inhabited

/-- Goes through sorted arguments. `extras` are the ones that nothing
took. -/
def collect : Nat → Arguments → List String → List Word → Except UsageError Order
  | 0, a, extras, _ => finish a extras
  | _ + 1, a, extras, [] => finish a extras
  | fuel + 1, a, extras, word :: words =>
    match word with
    | .value text => collect fuel a (extras ++ [text]) words
    | .unknown text => collect fuel a (extras ++ [text]) words
    | .rest texts => finish a (extras ++ texts)
    | .option flag short attached =>
      match flag.arity, attached with
      | .none, none =>
        if flag = .help then .ok .help else collect fuel (a.set flag []) extras words
      | .none, some value =>
        -- One dash may be followed by several letters, each an option.
        match short, value.toList with
        | true, letter :: more =>
          match Flag.ofText? (String.ofList ['-', letter]) with
          | some next =>
            let attached := if more.isEmpty then none else some (String.ofList more)
            collect fuel (a.set flag []) extras (.option next true attached :: words)
          | none => .error (.takesNone flag value)
        | _, _ => .error (.takesNone flag value)
      | _, some value => collect fuel (a.set flag [value]) extras words
      | .one, none =>
        match words with
        | .value value :: words => collect fuel (a.set flag [value]) extras words
        | _ => .error (.needsOne flag)
      | .some, none =>
        let values := leadingValues words
        if values.isEmpty then .error (.needsSome flag)
        else collect fuel (a.set flag values) extras (words.drop values.length)
where
  finish (a : Arguments) (extras : List String) : Except UsageError Order :=
    if extras.isEmpty then .ok (.generate a) else .error (.unrecognized extras)

/-- Reads a command line. -/
def readOrder (arguments : List String) : Except UsageError Order := do
  let words ← classifyAll arguments
  let steps := arguments.foldl (fun total text => total + text.length + 1) 1
  match ← collect steps {} [] words with
  | .help => return .help
  | .generate a =>
    if a.inline.isEmpty && a.sourceFiles.isEmpty then .error .noSource
    else return .generate a

end SchemaTypes.Command
