import SchemaTypes.Json.Basic

/-!
# `SchemaTypes.Json.Reader`: JSON from text

A reader takes the characters that are left and gives what it read with
the rest, or nothing if the text is not JSON. Besides the standard, it
accepts the words `NaN`, `Infinity` and `-Infinity` for numbers. Raw
control characters inside a string are refused.

A field that is written twice keeps its first place and its last value.
Two escaped surrogates that belong together are one character; one that
stands alone has no character and becomes the replacement character.

The nesting of values is bounded by a count of steps that starts at twice
the length of the text, which no value can use up: every step but the
ones that open an item reads a character.
-/

set_option autoImplicit false

namespace SchemaTypes.Json

/-- Whether a character may stand between two parts of a value. -/
def isGap (c : Char) : Bool :=
  c == ' ' || c == '\t' || c == '\n' || c == '\r'

/-- The text without the gap in front of it. -/
def skipGap (s : List Char) : List Char :=
  s.dropWhile isGap

/-- The number that a list of decimal digits denotes. -/
def decimalValue (digits : List Char) : Nat :=
  digits.foldl (fun value c => 10 * value + (c.toNat - '0'.toNat)) 0

/-- The value of a hexadecimal digit. -/
def hexDigit? (c : Char) : Option Nat :=
  if '0' ≤ c && c ≤ '9' then some (c.toNat - '0'.toNat)
  else if 'a' ≤ c && c ≤ 'f' then some (c.toNat - 'a'.toNat + 10)
  else if 'A' ≤ c && c ≤ 'F' then some (c.toNat - 'A'.toNat + 10)
  else none

/-- The value of four hexadecimal digits. -/
def hexValue? (a b c d : Char) : Option Nat := do
  let high := (← hexDigit? a) * 16 + (← hexDigit? b)
  return (high * 16 + (← hexDigit? c)) * 16 + (← hexDigit? d)

/-- The character that stands for a one-letter escape. -/
def escaped? : Char → Option Char
  | '"' => some '"'
  | '\\' => some '\\'
  | '/' => some '/'
  | 'b' => some '\x08'
  | 'f' => some '\x0c'
  | 'n' => some '\n'
  | 'r' => some '\r'
  | 't' => some '\t'
  | _ => none

/-- The code units of a string up to its closing quote, and the rest. -/
def readUnits : List Char → Option (List Nat × List Char)
  | [] => none
  | '"' :: rest => some ([], rest)
  | '\\' :: 'u' :: a :: b :: c :: d :: rest => do
    let unit ← hexValue? a b c d
    let (units, rest) ← readUnits rest
    return (unit :: units, rest)
  | '\\' :: c :: rest => do
    let named ← escaped? c
    let (units, rest) ← readUnits rest
    return (named.toNat :: units, rest)
  | c :: rest =>
    if c.toNat < 0x20 || c == '\\' then none
    else do
      let (units, rest) ← readUnits rest
      return (c.toNat :: units, rest)

/-- The character of a code point; a surrogate has none of its own. -/
def unitChar (unit : Nat) : Char :=
  if 0xD800 ≤ unit && unit < 0xE000 then '�' else Char.ofNat unit

/-- Code units as characters, surrogates taken in pairs. -/
def joinUnits : List Nat → List Char
  | [] => []
  | [unit] => [unitChar unit]
  | high :: low :: rest =>
    if 0xD800 ≤ high && high < 0xDC00 && 0xDC00 ≤ low && low < 0xE000 then
      Char.ofNat (0x10000 + (high - 0xD800) * 0x400 + (low - 0xDC00)) :: joinUnits rest
    else
      unitChar high :: joinUnits (low :: rest)

/-- A string after its opening quote, and the rest. -/
def readString (s : List Char) : Option (String × List Char) := do
  let (units, rest) ← readUnits s
  return (String.ofList (joinUnits units), rest)

/-- The digits of a fraction, if a point with digits follows. -/
def readFraction : List Char → Option (List Char × List Char)
  | '.' :: rest =>
    let digits := rest.takeWhile Char.isDigit
    if digits.isEmpty then none else some (digits, rest.dropWhile Char.isDigit)
  | _ => none

/-- The exponent of a number, if a mark with digits follows. -/
def readExponent : List Char → Option (Int × List Char)
  | mark :: rest =>
    let (negative, rest) :=
      match rest with
      | '-' :: rest => (true, rest)
      | '+' :: rest => (false, rest)
      | rest => (false, rest)
    let digits := rest.takeWhile Char.isDigit
    let value : Int := decimalValue digits
    if (mark == 'e' || mark == 'E') && !digits.isEmpty then
      some (if negative then -value else value, rest.dropWhile Char.isDigit)
    else
      none
  | [] => none

/-- The digits in front of the point of a number, and the rest. A leading
zero stands alone. -/
def readWhole : List Char → List Char × List Char
  | '0' :: rest => (['0'], rest)
  | s => (s.takeWhile Char.isDigit, s.dropWhile Char.isDigit)

/-- A number without its sign, and the rest. -/
def readMagnitude (negative : Bool) (s : List Char) : Option (Json × List Char) :=
  let (whole, rest) := readWhole s
  if whole.isEmpty then none
  else
    let fraction := readFraction rest
    let fractionDigits := (fraction.map Prod.fst).getD []
    let rest := (fraction.map Prod.snd).getD rest
    match fraction.isSome, readExponent rest with
    | false, none =>
      let value : Int := decimalValue whole
      some (.int (if negative then -value else value), rest)
    | _, exponent =>
      let shift := (exponent.map Prod.fst).getD 0
      let value := decimalValue (whole ++ fractionDigits)
      some (.real (.ofDecimal negative value (shift - fractionDigits.length)),
        (exponent.map Prod.snd).getD rest)

/-- The words for values, with what they denote. -/
def valueWords : List (List Char × Json) :=
  [("null".toList, .null), ("true".toList, .bool true), ("false".toList, .bool false),
   ("NaN".toList, .real .nan), ("Infinity".toList, .real (.infinite false)),
   ("-Infinity".toList, .real (.infinite true))]

/-- A value written as a word, and the rest. -/
def readWord (s : List Char) : Option (Json × List Char) :=
  valueWords.findSome? fun word =>
    if word.1.isPrefixOf s then some (word.2, s.drop word.1.length) else none

/-- A value that is neither an array nor an object nor a string. -/
def readScalar (s : List Char) : Option (Json × List Char) :=
  readWord s <|>
    match s with
    | '-' :: rest => readMagnitude true rest
    | _ => readMagnitude false s

mutual

/-- A value that starts at the first character, and the rest. -/
def readValue : Nat → List Char → Option (Json × List Char)
  | 0, _ => none
  | steps + 1, s =>
    match s with
    | '"' :: rest => do
      let (text, rest) ← readString rest
      return (.str text, rest)
    | '[' :: rest =>
      match skipGap rest with
      | ']' :: rest => some (.arr [], rest)
      | rest => do
        let (items, rest) ← readItems steps rest
        return (.arr items, rest)
    | '{' :: rest =>
      match skipGap rest with
      | '}' :: rest => some (.obj [], rest)
      | rest => do
        let (fields, rest) ← readFields steps [] rest
        return (.obj fields, rest)
    | _ => readScalar s

/-- The items of an array from one that starts at the first character up
to the closing bracket, and the rest. -/
def readItems : Nat → List Char → Option (List Json × List Char)
  | 0, _ => none
  | steps + 1, s => do
    let (item, rest) ← readValue steps s
    match skipGap rest with
    | ']' :: rest => return ([item], rest)
    | ',' :: rest =>
      let (items, rest) ← readItems steps (skipGap rest)
      return (item :: items, rest)
    | _ => none

/-- The fields of an object after those in `before`, from one that starts
at the first character up to the closing brace, and the rest. -/
def readFields : Nat → List (String × Json) → List Char →
    Option (List (String × Json) × List Char)
  | 0, _, _ => none
  | steps + 1, before, s =>
    match s with
    | '"' :: rest => do
      let (key, rest) ← readString rest
      match skipGap rest with
      | ':' :: rest =>
        let (value, rest) ← readValue steps (skipGap rest)
        let fields := setField key value before
        match skipGap rest with
        | '}' :: rest => return (fields, rest)
        | ',' :: rest => readFields steps fields (skipGap rest)
        | _ => none
      | _ => none
    | _ => none

end

/-- The value that a text denotes, if the text is JSON. -/
def parse? (text : String) : Option Json := do
  let s := text.toList
  let (value, rest) ← readValue (2 * s.length + 2) (skipGap s)
  if (skipGap rest).isEmpty then return value else none

end SchemaTypes.Json
