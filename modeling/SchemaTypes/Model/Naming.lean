import SchemaTypes.Text.Case

/-!
# `SchemaTypes.Model.Naming`: names of generated types

A table or an enum is named in snake case and its type in capitalised
words: the first character is put in upper case, and a run of
underscores before a small letter gives way to that letter in upper case.
Underscores anywhere else are kept.
-/

set_option autoImplicit false

namespace SchemaTypes.Naming

/-- Whether a character is a small letter of the Latin alphabet. -/
def isSmallLetter (c : Char) : Bool :=
  'a' ≤ c && c ≤ 'z'

/-- The rest of a name with its words joined, after `held` underscores
that have been read and not yet written. -/
def joinWords (held : Nat) : List Char → List Char
  | [] => List.replicate held '_'
  | c :: rest =>
    if c == '_' then joinWords (held + 1) rest
    else if 0 < held && isSmallLetter c then c.toUpper :: joinWords 0 rest
    else List.replicate held '_' ++ c :: joinWords 0 rest

/-- The type name for a name in the schema. -/
def typeName (name : String) : String :=
  match name.toList with
  | [] => ""
  | c :: rest => String.ofList (Text.upperChar c ++ joinWords 0 rest)

end SchemaTypes.Naming
