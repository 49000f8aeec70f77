import SchemaTypes.Sql.Dialect
import SchemaTypes.Sql.Token
import SchemaTypes.Text.Word

/-!
# `SchemaTypes.Sql.Lexer`: from source to tokens

The lexer looks at the characters that are left and takes one token, one
comment or one blank off their front. Each reader below gives what it
read and how many characters it took for that, its width. A reader that
meets the end of the source inside a quote or a comment gives the place
at which it gave up, counted from the end of the source, because the text
of the error shows what stands around it.

Some statements are not read token by token: after one of the command
words at the start of a statement, everything up to the next semicolon
outside quotes is a single string token.
-/

set_option autoImplicit false

namespace SchemaTypes.Sql.Lexer

/-- The characters that are tokens on their own and end a word. -/
def marks : List Char :=
  ['(', ')', '[', ']', '\x7b', '\x7d', '&', '^', ':', ',', '-', '.', '=', '>', '<', '%', '!',
   '/', '\\', '+', ';', '*', '~', '?', '@', '#', '\'', '\x60', '"', '|', '$']

/-- The kind of a mark. -/
def markKind (c : Char) : Kind :=
  if c == '(' then .openParen
  else if c == ')' then .closeParen
  else if c == '[' then .openBracket
  else if c == ']' then .closeBracket
  else if c == ',' then .comma
  else if c == '.' then .dot
  else if c == ';' then .semicolon
  else .symbol

/-- The operators of more than one character. -/
def operators : List String :=
  ["<=>", "->>", "#>>", "<->", "~~~", "~~*", "||/", "?::", "-|-", "\x7b\x7b+", "\x7b\x7b-",
   "\x7b%+", "\x7b%-", "+%\x7d", "-%\x7d", "+\x7d\x7d", "-\x7d\x7d", "\x7b\x7b", "\x7b%",
   "%\x7d", "\x7d\x7d", "::", "||", "|>", ">=", "<=", "<>", "!=", ":=", "->", "=>", "#>", "&&",
   "??", "~~", "~*", "==", "&<", "&>", "@@", "@>", "@?", "<@", "?&", "?|", "#-", "|/", "^@"]

/-- The phrases that count as one word. -/
def phrases : List (List String) :=
  [["PRIMARY", "KEY"], ["FOREIGN", "KEY"], ["DOUBLE", "PRECISION"], ["CHARACTER", "VARYING"],
   ["CHAR", "VARYING"], ["PARTITION", "BY"], ["PARTITIONED", "BY"], ["GROUP", "BY"],
   ["ORDER", "BY"], ["GROUPING", "SETS"], ["CLUSTER", "BY"], ["DISTRIBUTE", "BY"],
   ["SORT", "BY"], ["CONNECT", "BY"], ["SIMILAR", "TO"], ["SQL", "SECURITY"]]

/-- The words after which the rest of a statement is one string. -/
def commandWords : List String :=
  ["EXPLAIN", "CALL", "VACUUM", "DO", "DECLARE", "EXEC", "EXECUTE", "REFRESH", "REINDEX",
   "RESET", "PREPARE", "OPTIMIZE", "SHOW", "FETCH", "RENAME", "LOCK"]

/-- What was found at the front of the source. -/
inductive Found where
  | token (kind : Kind) (text : List Char) (width : Nat)
  | gap (width : Nat)
  /-- The place at which reading stopped, counted from the end of the
  source. -/
  | failure (beyond : Int)
deriving Repr, Inhabited

/-- Whether a character may stand inside a word. -/
def inWord (c : Char) : Bool :=
  !Text.isBlank c && (c == '$' || !marks.contains c)

/-- Whether a character ends a literal or a word when it follows. -/
def endsWord (c : Char) : Bool :=
  Text.isBlank c || marks.contains c

/-- A text, and the width of what it was read from. -/
abbrev Read := List Char × Nat

/-- A text with more in front of it, which is `width` characters wide. -/
def Read.after (text : List Char) (width : Nat) (result : Read) : Read :=
  (text ++ result.1, width + result.2)

/-- Whether a character is an octal digit. -/
def isOctalDigit (c : Char) : Bool :=
  '0' ≤ c && c ≤ '7'

/-- Whether a character is a binary digit. -/
def isBinaryDigit (c : Char) : Bool :=
  c == '0' || c == '1'

/-- Whether a character is a hexadecimal digit. -/
def isHexDigit (c : Char) : Bool :=
  c.isDigit || ('a' ≤ c && c ≤ 'f') || ('A' ≤ c && c ≤ 'F')

/-- The value of a digit in any base up to sixteen. -/
def digitValue (c : Char) : Nat :=
  if c.isDigit then c.toNat - '0'.toNat else 10 + (c.toUpper.toNat - 'A'.toNat)

/-- The character with a code in a base. -/
def codedChar (base : Nat) (digits : List Char) : Char :=
  Char.ofNat (digits.foldl (fun code c => code * base + digitValue c) 0)

/-- The code of a character behind a backslash: what it stands for and how
wide it is. Up to three octal digits, up to two hexadecimal ones after
`x`, and exactly four or eight after `u` or `U`. -/
def readCode (s : List Char) : Option Read :=
  let octal := (s.take 3).takeWhile isOctalDigit
  let hex (count : Nat) := ((s.drop 1).take count).takeWhile isHexDigit
  let exactly (count : Nat) : Option Read :=
    if (hex count).length = count then some ([codedChar 16 (hex count)], 1 + count) else none
  match s.head? with
  | some 'x' =>
    if (hex 2).isEmpty then none else some ([codedChar 16 (hex 2)], 1 + (hex 2).length)
  | some 'u' => exactly 4
  | some 'U' => exactly 8
  | _ => if octal.isEmpty then none else some ([codedChar 8 octal], octal.length)

/-- The control character that a letter behind a backslash stands for. -/
def controlChar? (c : Char) : Option Char :=
  if c == 'b' then some '\x08'
  else if c == 'f' then some '\x0c'
  else if c == 'n' then some '\n'
  else if c == 'r' then some '\r'
  else if c == 't' then some '\t'
  else none

/-- What stands behind a backslash, which starts with `c`: the text that
it means together with the backslash, and its width. -/
def readEscape (backslash : Backslash) (c : Char) (rest : List Char) : Read :=
  match controlChar? c with
  | some control => ([control], 1)
  | none =>
    match backslash with
    | .codes => (readCode (c :: rest)).getD ([c], 1)
    | .letters =>
      if c == 'a' then (['\x07'], 1)
      else if c == 'v' then (['\x0b'], 1)
      else if c == '0' || c == 'Z' || c == '%' || c == '_' then (['\\', c], 1)
      else ([c], 1)
    | .plain => (['\\', c], 1)

/-- The text up to a closing quote. A doubled quote stands for the quote.
`fuel` bounds the characters that are read. -/
def readQuotedFrom (quote : Char) (backslash : Backslash) :
    Nat → List Char → Except Int Read
  | 0, _ => .error 1
  | _ + 1, [] => .error 1
  | _ + 1, [c] => if c == quote then .ok ([], 1) else .error 0
  | fuel + 1, c :: d :: rest =>
    if c == quote && d != quote then .ok ([], 1)
    else if c == quote then
      if rest.isEmpty then .error (-1)
      else (readQuotedFrom quote backslash fuel rest).map (.after [d] 2)
    else if c == '\\' && backslash != .plain then
      if rest.isEmpty then .error (-1)
      else
        let (text, width) := readEscape backslash d rest
        (readQuotedFrom quote backslash fuel ((d :: rest).drop width)).map
          (.after text (1 + width))
    else (readQuotedFrom quote backslash fuel (d :: rest)).map (.after [c] 1)

/-- The text up to a closing quote, and its width with the quote. -/
def readQuoted (quote : Char) (backslash : Backslash) (s : List Char) : Except Int Read :=
  readQuotedFrom quote backslash (s.length + 1) s

/-- The text up to a closing sequence. Two single quotes are taken
together, and something has to follow them. -/
def readUntil (stop : List Char) : List Char → Except Int Read
  | [] => .error 1
  | [c] => if stop == [c] then .ok ([], 1) else .error 0
  | c :: d :: rest =>
    if c == '\'' && d == '\'' then
      if rest.isEmpty then .error (-1) else (readUntil stop rest).map (.after [c, d] 2)
    else if stop.isPrefixOf (c :: d :: rest) then .ok ([], stop.length)
    else (readUntil stop (d :: rest)).map (.after [c] 1)

/-- The width of a comment after its opening, of which `before` has been
read. Comments nest, but an opening that directly follows another is not
counted. A closing gives up its last character to an opening that starts
with it. -/
def commentWidth (opening closing : List Char) : Nat → Nat → Nat → List Char → Option Nat
  | 0, _, _, _ => none
  | _ + 1, _, _, [] => none
  | fuel + 1, before, depth, s@(_ :: rest) =>
    let closes := closing.isPrefixOf s
    if closes && depth == 0 then some (before + closing.length)
    else
      let depth := if closes then depth - 1 else depth
      if opening.isPrefixOf rest then
        commentWidth opening closing fuel (before + 1 + opening.length) (depth + 1)
          (rest.drop opening.length)
      else commentWidth opening closing fuel (before + 1) depth rest

/-- Whether a text consists of ASCII digits of a base, each with at most one
underscore in front. -/
def isBaseNumber (digit : Char → Bool) : List Char → Bool
  | [] => false
  | [c] => digit c
  | '_' :: c :: rest => digit c && (rest.isEmpty || isBaseNumber digit rest)
  | c :: rest => digit c && isBaseNumber digit rest

/-- Whether a text between the quotes of a string of digits is a number:
blanks around it, a sign, the mark of its base, and digits of any
script. -/
def isMarkedNumber (digit : Char → Bool) (mark : Char) (text : List Char) : Bool :=
  let unsigned :=
    match (Text.trim text).map Text.plainDigit with
    | '+' :: rest => rest
    | '-' :: rest => rest
    | trimmed => trimmed
  match unsigned with
  | '0' :: c :: rest =>
    if c.toLower == mark then isBaseNumber digit rest else isBaseNumber digit unsigned
  | '_' :: _ => false
  | _ => isBaseNumber digit unsigned

/-- How far a number has been read. -/
structure NumberState where
  point : Bool := false
  exponent : Bool := false
  sign : Bool := false

/-- The rest of a number: digits, one point, one exponent mark and, once
the mark was read, one sign before a digit. -/
def readNumber (state : NumberState) : List Char → List Char
  | [] => []
  | c :: rest =>
    if c.isDigit then c :: readNumber state rest
    else if c == '.' && !state.point then c :: readNumber { state with point := true } rest
    else if (c == '+' || c == '-') && state.exponent && !state.sign &&
        rest.head?.any Char.isDigit then
      c :: readNumber { state with sign := true } rest
    else if (c == 'e' || c == 'E') && !state.exponent then
      c :: readNumber { state with exponent := true } rest
    else []

/-- A number, or a literal in base two or sixteen. A literal with a wrong
digit is taken for a name, and the number of a parameter has no point. -/
def scanNumber (ofParameter : Bool) (s : List Char) : Found :=
  let based (form : TextForm) (digit : Char → Bool) : Found :=
    let literal := s.takeWhile fun c => !endsWord c
    let digits := literal.drop 2
    if isBaseNumber digit (digits.map Text.plainDigit) then
      .token (.otherText form) digits literal.length
    else .token .name literal literal.length
  match s with
  | '0' :: 'b' :: _ => based .bits isBinaryDigit
  | '0' :: 'B' :: _ => based .bits isBinaryDigit
  | '0' :: 'x' :: _ => based .hex isHexDigit
  | '0' :: 'X' :: _ => based .hex isHexDigit
  | _ =>
    let digits := readNumber { point := ofParameter } s
    .token .number digits digits.length

/-- A token from the outcome of reading its text behind an opening of a
width. -/
def Found.ofRead (kind : Kind) (opening : Nat) : Except Int Read → Found
  | .ok (text, width) => .token kind text (opening + width)
  | .error beyond => .failure beyond

/-- A string of digits of a base, from behind its letter and its opening
quote. -/
def scanDigits (quotes : Quotes) (form : TextForm) (digit : Char → Bool) (mark : Char)
    (s : List Char) : Found :=
  match readQuoted '\'' quotes.backslash s with
  | .ok (text, width) =>
    if text.isEmpty || isMarkedNumber digit mark text then
      .token (.otherText form) text (2 + width)
    else .failure (width - s.length)
  | .error beyond => .failure beyond

/-- A string with a letter in front of its opening quote, if one starts
here. -/
def scanLetterString (quotes : Quotes) : List Char → Option Found
  | c :: '\'' :: rest =>
    if c == 'n' || c == 'N' then
      some (.ofRead (.otherText .national) 2 (readQuoted '\'' quotes.backslash rest))
    else if c == 'b' || c == 'B' then some (scanDigits quotes .bits isBinaryDigit 'b' rest)
    else if c == 'x' || c == 'X' then some (scanDigits quotes .hex isHexDigit 'x' rest)
    else if quotes.dollars && (c == 'e' || c == 'E') then
      some (.ofRead (.otherText .escaped) 2 (readQuoted '\'' .codes rest))
    else none
  | c :: '&' :: '\'' :: rest =>
    if quotes.dollars && (c == 'u' || c == 'U') then
      some (.ofRead (.otherText .unicode) 3 (readQuoted '\'' .plain rest))
    else none
  | _ => none

/-- What starts with a dollar sign, from behind the sign: a string between
two equal tags, or the sign of a parameter. A tag has no blanks and is
not a number. The sign takes the first character of what follows with it
if the source ends with the next dollar sign. -/
def scanDollar (s : List Char) : Found :=
  if s.isEmpty then .failure 1
  else
    match readUntil ['$'] s with
    | .error beyond =>
      if beyond = -1 then .failure beyond else .token .symbol ['$'] 1
    | .ok ([], _) =>
      match s.drop 1 with
      | [] => .failure 1
      | rest => .ofRead (.otherText .dollar) 2 (readUntil ['$', '$'] rest)
    | .ok (tag, _) =>
      let rest := s.drop (tag.length + 1)
      if rest.isEmpty then .token .symbol ('$' :: tag.take 1) 2
      else if tag.all Text.isDigitChar || tag.any Text.isBlank then .token .symbol ['$'] 1
      else
        .ofRead (.otherText .dollar) (tag.length + 2) (readUntil ('$' :: tag ++ ['$']) rest)

/-- A comment between an opening, which has been read, and a closing. -/
def scanBlock (opening closing rest : List Char) : Found :=
  match commentWidth opening closing rest.length opening.length 0 rest with
  | some width => .gap width
  | none => .failure 1

/-- A comment, if one starts here. -/
def scanComment (quotes : Quotes) : List Char → Option Found
  | '-' :: '-' :: rest =>
    some (.gap (2 + (rest.takeWhile fun c => c != '\n' && c != '\r').length))
  | '#' :: rest =>
    if quotes.hashComments then
      some (.gap (1 + (rest.takeWhile fun c => c != '\n' && c != '\r').length))
    else none
  | '/' :: '*' :: rest => some (scanBlock ['/', '*'] ['*', '/'] rest)
  | '\x7b' :: '#' :: rest => some (scanBlock ['\x7b', '#'] ['#', '\x7d'] rest)
  | _ => none

/-- An operator of more than one character, if one starts here. -/
def scanOperator (s : List Char) : Option Found :=
  operators.findSome? fun operator =>
    if operator.toList.isPrefixOf s then
      some (.token .symbol operator.toList operator.length)
    else
      none

/-- What follows a word in any case, if the text starts with it. The word
is in upper case and has no letters outside of ASCII. -/
def afterWord : List Char → List Char → Option (List Char)
  | [], s => some s
  | w :: word, c :: s => if c.toUpper == w then afterWord word s else none
  | _ :: _, [] => none

/-- The width of a phrase, if the text starts with it. Its words have
blanks and nothing else between them. -/
def phraseWidth : List String → List Char → Option Nat
  | [], _ => some 0
  | [word], s => do
    let rest ← afterWord word.toList s
    if rest.head?.all endsWord then some word.length else none
  | word :: words, s => do
    let rest ← afterWord word.toList s
    let blanks := (rest.takeWhile Text.isBlank).length
    if blanks = 0 then none
    else
      let width ← phraseWidth words (rest.drop blanks)
      return word.length + blanks + width

/-- A phrase that counts as one word, if one starts here. Its text is in
upper case with single blanks. -/
def scanPhrase (quotes : Quotes) (s : List Char) : Option Found :=
  (phrases ++ quotes.phrases).findSome? fun phrase =>
    (phraseWidth phrase s).map fun width =>
      .token .word (List.intercalate [' '] (phrase.map String.toList)) width

/-- A mark or a word. -/
def scanPlain : List Char → Found
  | [] => .gap 0
  | c :: rest =>
    if marks.contains c then .token (markKind c) [c] 1
    else
      let word := c :: rest.takeWhile inWord
      .token .word word word.length

/-- What stands at the front of the source, behind the sign of a parameter
if `ofParameter` is set. -/
def scan (quotes : Quotes) (ofParameter : Bool) : List Char → Found
  | [] => .gap 0
  | c :: rest =>
    if Text.isBlank c then .gap 1
    else if c.isDigit then scanNumber ofParameter (c :: rest)
    else if quotes.names.contains c then .ofRead .name 1 (readQuoted c .plain rest)
    else if quotes.texts.contains c then .ofRead .text 1 (readQuoted c quotes.backslash rest)
    else if c == '$' && quotes.dollars then scanDollar rest
    else
      (scanLetterString quotes (c :: rest) <|> scanComment quotes (c :: rest) <|>
        scanOperator (c :: rest) <|> scanPhrase quotes (c :: rest)).getD (scanPlain (c :: rest))

/-- Whether a token is the sign of a parameter. -/
def signsParameter (kind : Kind) (text : List Char) : Bool :=
  kind == .symbol && (text == ['@'] || text.head? == some '$')

/-- Reads on from a position to the next semicolon outside quotes, or to
the end. Gives the position where the last piece was taken, which is
`mark` so far, and the position of what is left. Blanks between words are
taken as one piece, which counts from behind them. -/
def readCommand (quotes : Quotes) :
    Nat → Bool → Nat → Nat → List Char → Except Int (Nat × Nat)
  | 0, _, mark, position, _ => .ok (mark, position)
  | fuel + 1, ofParameter, mark, position, s =>
    let next (ofParameter : Bool) (mark width : Nat) : Except Int (Nat × Nat) :=
      let rest := s.drop width
      if rest.head? == some ';' then .ok (mark, position + width)
      else readCommand quotes fuel ofParameter mark (position + width) rest
    let spaces := (s.takeWhile fun c => c == ' ' || c == '\t').length
    if s.isEmpty then .ok (mark, position)
    else if 0 < spaces then next ofParameter (position + spaces) spaces
    else
      match scan quotes ofParameter s with
      | .token kind text width => next (signsParameter kind text) position width
      | .gap width => next ofParameter position width
      | .failure beyond => .error beyond

/-- Whether a token may stand before the first word of a statement. -/
def startsStatement : Option Token → Bool
  | none => true
  | some token =>
    token.kind == .semicolon || (token.kind == .word && Text.upper token.text == "BEGIN")

/-- The tokens from a position on, after the token `before`. -/
def readTokens (quotes : Quotes) :
    Nat → Option Token → Nat → List Char → Except Int (List Token)
  | 0, _, _, _ => .ok []
  | fuel + 1, before, position, s =>
    if s.isEmpty then .ok []
    else
      let ofParameter := before.any fun token => signsParameter token.kind token.text.toList
      match scan quotes ofParameter s with
      | .failure beyond => .error beyond
      | .gap width => readTokens quotes fuel before (position + width) (s.drop width)
      | .token kind text width => do
        let next := position + width
        let rest := s.drop width
        let token : Token := ⟨kind, String.ofList text, position, next - 1⟩
        let isCommand := startsStatement before && kind == .word &&
          commandWords.contains (Text.upper token.text) && rest.head? != some ';'
        if isCommand then
          let (mark, stop) ← readCommand quotes rest.length false position next rest
          let body := Text.trim (rest.take (stop - next))
          let after := rest.drop (stop - next)
          let command : Token := ⟨.text, String.ofList body, mark, stop - 1⟩
          if body.isEmpty then
            return token :: (← readTokens quotes fuel (some token) stop after)
          else
            return token :: command :: (← readTokens quotes fuel (some command) stop after)
        else
          return token :: (← readTokens quotes fuel (some token) next rest)

/-- What the message about a source that cannot be read shows of it: some
characters on either side of the place, and never the last one. -/
def context (s : List Char) (beyond : Int) : List Char :=
  let place := (s.length + beyond).toNat
  (s.take (min (place + 50) (s.length - 1))).drop (place - 50)

/-- The tokens of a source, or the piece of it that is shown when it
cannot be read. -/
def tokens (quotes : Quotes) (source : List Char) : Except String (List Token) :=
  match readTokens quotes (source.length + 1) none 0 source with
  | .ok tokens => .ok tokens
  | .error beyond => .error (String.ofList (context source beyond))

end SchemaTypes.Sql.Lexer
