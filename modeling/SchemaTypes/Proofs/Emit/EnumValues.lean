import SchemaTypes.Emit.Convo
import SchemaTypes.Emit.Zod
import SchemaTypes.Proofs.Emit.Blocks
import SchemaTypes.Proofs.Json.Literals

/-!
# `SchemaTypes.Proofs.Emit.EnumValues`: enum values are read back from every target

The values of an enum are written as string literals with a separator
between two of them, and a value may hold anything: quotes, backslashes,
line breaks, the separator itself. A list of values can be told from its
text nevertheless, because a literal ends at its own closing quote
(`readString_literal`). `readLiterals` reads literals one after the other,
and the character behind each one tells whether another follows.

The three targets differ in what is written around the values and in what
stands for an enum without values. `EnumStyle` holds these differences and
`EnumStyle.Apart` says what they must not be taken for. A target then only
has to be brought into the form front, values, back, where the front and
the back hang on nothing but the type (`unionText_eq`, `enumSchema_eq`,
`enumText_eq`). `enum_values_kept` is the result for all three.
-/

set_option autoImplicit false

namespace SchemaTypes.Json

/-- Reading a string uses characters up, its closing quote at least. By the
cases of `readUnits`: each escape and each character is taken off the
front. -/
theorem length_lt_of_readUnits {s rest : List Char} {units : List Nat}
    (h : readUnits s = some (units, rest)) : rest.length < s.length := by
  fun_induction readUnits s generalizing units rest with
  | case1 => cases h
  | case2 s =>
    cases h
    exact Nat.lt_succ_self _
  | case3 a b c d s ih =>
    -- An escape by a code takes six characters.
    obtain ⟨unit, -, h⟩ := Option.bind_eq_some_iff.mp h
    obtain ⟨read, hread, h⟩ := Option.bind_eq_some_iff.mp h
    cases h
    have := ih hread
    simp only [List.length_cons]
    omega
  | case4 c s _ ih =>
    -- An escape by a letter takes two.
    obtain ⟨named, -, h⟩ := Option.bind_eq_some_iff.mp h
    obtain ⟨read, hread, h⟩ := Option.bind_eq_some_iff.mp h
    cases h
    have := ih hread
    simp only [List.length_cons]
    omega
  | case5 => cases h
  | case6 c s _ _ _ _ ih =>
    obtain ⟨read, hread, h⟩ := Option.bind_eq_some_iff.mp h
    cases h
    exact Nat.lt_succ_of_lt (ih hread)

/-- What is left behind a string is shorter than the text, which makes
`readLiterals` end. -/
theorem length_lt_of_readString {s rest : List Char} {value : String}
    (h : readString s = some (value, rest)) : rest.length < s.length := by
  obtain ⟨read, hread, h⟩ := Option.bind_eq_some_iff.mp h
  cases h
  exact length_lt_of_readUnits hread

/-- The texts of the string literals that a text starts with, with
`separator` between two of them, and what follows the last one. -/
def readLiterals (separator : Char) : List Char → Option (List String × List Char)
  | '"' :: s =>
    match _h : readString s with
    | none => none
    | some (value, rest) =>
      if rest.head? = some separator then
        (readLiterals separator rest.tail).map fun read => (value :: read.1, read.2)
      else some ([value], rest)
  | s => some ([], s)
termination_by s => s.length
decreasing_by
  have := length_lt_of_readString _h
  simp only [List.length_cons, List.length_tail]
  omega

/-- A literal is read by `readLiterals` up to its own closing quote,
whatever its text holds, and whether another one follows is told by the next
character. -/
theorem readLiterals_literal (separator : Char) (value : String) (rest : List Char) :
    readLiterals separator (literal value.toList ++ rest) =
      if rest.head? = some separator then
        (readLiterals separator rest.tail).map fun read => (value :: read.1, read.2)
      else some ([value], rest) := by
  have hread := readString_literal value rest
  have hliteral : literal value.toList ++ rest =
      '"' :: (value.toList.flatMap escapeChar ++ '"' :: rest) := by
    simp [literal]
  rw [hliteral, readLiterals]
  split
  next hnone =>
    rw [hread] at hnone
    cases hnone
  next hsome =>
    rw [hread] at hsome
    cases hsome
    rfl

/-- Literals with a separator between two of them are read back, in front of
a text that does not start with the separator. By induction on the values
with `readLiterals_literal` for each of them. -/
theorem readLiterals_intercalate {separator : Char} {rest : List Char}
    (hrest : rest.head? ≠ some separator) (value : String) (values : List String) :
    readLiterals separator
        (List.intercalate [separator] ((value :: values).map fun v => literal v.toList) ++ rest) =
      some (value :: values, rest) := by
  induction values generalizing value with
  | nil => rw [List.map_singleton, List.intercalate_singleton, readLiterals_literal, if_neg hrest]
  | cons next values ih =>
    have hnext := ih next
    simp only [List.map_cons] at hnext ⊢
    rw [List.intercalate_cons_cons, List.append_assoc, List.append_assoc, List.singleton_append,
      readLiterals_literal, List.head?_cons, if_pos rfl, List.tail_cons, hnext, Option.map_some]

/-- A list of literals that is not empty starts with a quote. `read?_write`
tells it from the text for no values by that. -/
theorem exists_intercalate_eq_cons (separator : Char) (value : String) (values : List String) :
    ∃ rest, List.intercalate [separator] ((value :: values).map fun v => literal v.toList) =
      '"' :: rest := by
  cases values with
  | nil => exact ⟨_, List.intercalate_singleton⟩
  | cons next values => exact ⟨_, List.intercalate_cons_cons⟩

end SchemaTypes.Json

namespace SchemaTypes.Emit

/-- How a target writes the values of an enum. -/
structure EnumStyle where
  opening : String
  separator : Char
  closing : String
  /-- What is written if there are no values. -/
  empty : String

namespace EnumStyle

/-- The values of an enum as they are written. -/
def write (style : EnumStyle) (values : List String) : String :=
  if values.isEmpty then style.empty
  else style.opening ++ Text.joinWith (String.singleton style.separator) (values.map Json.quote) ++
    style.closing

/-- The values of an enum, read from its declaration: what stands behind
`front` and is closed by `back`. -/
def read? (style : EnumStyle) (front back text : String) : Option (List String) := do
  let declared := text.toList.drop front.toList.length
  if declared = (style.empty ++ back).toList then return []
  let (values, rest) ← Json.readLiterals style.separator
    (declared.drop style.opening.toList.length)
  if rest = (style.closing ++ back).toList then return values else none

/-- In front of `back`, the end of the values is not taken for a further
one, and what is written without values is not taken for a first one. -/
structure Apart (style : EnumStyle) (back : String) : Prop where
  closing : (style.closing ++ back).toList.head? ≠ some style.separator
  empty : ¬ style.opening.toList ++ ['"'] <+: (style.empty ++ back).toList

/-- A list of values that is not empty is written by a style, with `write`,
between its brackets. -/
theorem toList_write_cons (style : EnumStyle) (value : String) (values : List String) :
    (style.write (value :: values)).toList =
      style.opening.toList ++ (List.intercalate [style.separator]
        ((value :: values).map fun v => Json.literal v.toList) ++ style.closing.toList) := by
  simp [write, Text.joinWith, Json.quote, Function.comp_def]

/-- Values are read back from what a target writes, with whatever follows
it. The text for no values has to differ from one that starts with a quote,
as `EnumStyle.Apart` says. -/
theorem read?_write {style : EnumStyle} {back : String} (h : style.Apart back) (front : String)
    (values : List String) :
    style.read? front back (front ++ style.write values ++ back) = some values := by
  have hdeclared : (front ++ style.write values ++ back).toList.drop front.toList.length =
      (style.write values ++ back).toList := by
    rw [String.append_assoc, String.toList_append, List.drop_left]
  simp only [read?, hdeclared]
  cases values with
  | nil => exact if_pos rfl
  | cons value values =>
    rw [String.toList_append, toList_write_cons, List.append_assoc, List.append_assoc,
      ← String.toList_append]
    -- What is written for no values would have to go on with a literal.
    have hvalues : style.opening.toList ++ (List.intercalate [style.separator]
        ((value :: values).map fun v => Json.literal v.toList) ++ (style.closing ++ back).toList) ≠
        (style.empty ++ back).toList := by
      intro heq
      obtain ⟨rest, hrest⟩ := Json.exists_intercalate_eq_cons style.separator value values
      apply h.empty
      rw [← heq, hrest, List.prefix_append_right_inj, List.cons_append]
      exact List.cons_prefix_cons.mpr ⟨rfl, List.nil_prefix⟩
    rw [if_neg hvalues, List.drop_left, Json.readLiterals_intercalate h.closing]
    exact if_pos rfl

end EnumStyle

/-! ## The three targets -/

/-- The values of a union. -/
def unionStyle : EnumStyle := ⟨"", '|', "", "never"⟩

/-- The values of the schema of an enum. -/
def enumSchemaStyle : EnumStyle := ⟨"z.enum([", ',', "])", "z.never()"⟩

/-- The values of a Convo-Lang enum. -/
def enumTextStyle : EnumStyle := ⟨"", ' ', "", ""⟩

/-- What stands in front of the values of a union. -/
def unionFront (t : TypeDef) : String :=
  joinText (((present? t.description).map docBlock).toList ++ ["export type " ++ t.name ++ "="])

/-- What stands in front of the values of the schema of an enum. -/
def enumSchemaFront (t : TypeDef) : String :=
  joinText (["/**"] ++ ((present? t.description).map docLines).toList ++
    [" * Zod schema for the \"" ++ t.name ++ "\" union", " */"] ++ [schemaDeclaration t.name])

/-- What stands in front of the values of a Convo-Lang enum. -/
def enumTextFront (t : TypeDef) : String :=
  joinText (((present? t.description).map hashComment).toList ++ [t.name ++ " = enum("])

/-- The union of an enum, in the form that `EnumStyle.keepsValues` asks for:
what depends on its type, its values, a semicolon. -/
theorem unionText_eq (r : TypeRecord) :
    unionText r = unionFront r.typeDef ++ unionStyle.write r.enumValues ++ ";" := by
  have hvalues : (if r.enumValues.isEmpty then "never"
      else Text.joinWith "|" (r.enumValues.map Json.quote)) = unionStyle.write r.enumValues := by
    simp [EnumStyle.write, unionStyle]
  rw [unionText, hvalues, unionFront, joinText_concat_append, joinText_concat_append]

/-- The schema of an enum, in the form that `EnumStyle.keepsValues` asks
for: what depends on its type, its values, and what is said about it. -/
theorem enumSchema_eq (r : TypeRecord) :
    enumSchema r = enumSchemaFront r.typeDef ++ enumSchemaStyle.write r.enumValues ++
      (describe r.typeDef.description ++ ";") := by
  have hvalues : (if r.enumValues.isEmpty then "z.never()"
      else "z.enum([" ++ Text.joinWith "," (r.enumValues.map Json.quote) ++ "])") =
      enumSchemaStyle.write r.enumValues := rfl
  rw [enumSchemaFront, ← String.append_assoc, ← joinText_concat_append, ← joinText_concat_append,
    ← joinText_concat_append, ← hvalues, enumSchema, schemaDeclaration]
  simp only [List.append_assoc, List.cons_append, List.nil_append]

/-- The Convo-Lang enum, in the form that `EnumStyle.keepsValues` asks for:
what depends on its type, its values, a parenthesis. -/
theorem enumText_eq (r : TypeRecord) :
    enumText r = enumTextFront r.typeDef ++ enumTextStyle.write r.enumValues ++ ")" := by
  have hvalues : Text.joinWith " " (r.enumValues.map Json.quote) =
      enumTextStyle.write r.enumValues := by
    cases h : r.enumValues with
    | nil => rfl
    | cons value values => simp [EnumStyle.write, enumTextStyle]
  rw [enumText, hvalues, enumTextFront, joinText_concat_append, joinText_concat_append]

/-- The values of the union of a type. -/
def readUnion? (t : TypeDef) : String → Option (List String) :=
  unionStyle.read? (unionFront t) ";"

/-- The values of the schema of an enum type. -/
def readEnumSchema? (t : TypeDef) : String → Option (List String) :=
  enumSchemaStyle.read? (enumSchemaFront t) (describe t.description ++ ";")

/-- The values of the Convo-Lang enum of a type. -/
def readEnumText? (t : TypeDef) : String → Option (List String) :=
  enumTextStyle.read? (enumTextFront t) ")"

/-- A way of writing types keeps the values of an enum type: they are read
back from its text, and two records of the type have equal texts only if
their values are equal, order and duplicates included. -/
structure KeepsValues (text : TypeRecord → String) (values? : String → Option (List String))
    (t : TypeDef) : Prop where
  read_back : ∀ r : TypeRecord, r.typeDef = t → values? (text r) = some r.enumValues
  unambiguous : ∀ r r' : TypeRecord, r.typeDef = t → r'.typeDef = t →
    (text r = text r' ↔ r.enumValues = r'.enumValues)

/-- What is written around the values may hang on the type in any way. The
reader is given the type and skips that much, and `read?_write` reads the
rest. -/
theorem EnumStyle.keepsValues (style : EnumStyle) (front back : TypeDef → String)
    {text : TypeRecord → String}
    (htext : ∀ r, text r = front r.typeDef ++ style.write r.enumValues ++ back r.typeDef)
    {t : TypeDef} (hapart : style.Apart (back t)) :
    KeepsValues text (style.read? (front t) (back t)) t := by
  have hread : ∀ r : TypeRecord, r.typeDef = t →
      style.read? (front t) (back t) (text r) = some r.enumValues := by
    rintro r rfl
    rw [htext]
    exact read?_write hapart (front r.typeDef) r.enumValues
  refine ⟨hread, fun r r' htype htype' => ?_⟩
  constructor
  · intro heq
    apply Option.some.inj
    rw [← hread r htype, ← hread r' htype', heq]
  · intro hvalues
    rw [htext r, htext r', htype, htype', hvalues]

/-- **Enum values survive in every target.** Whatever the type and its
values are, the exact list of values is read back from the union, from the
schema and from the Convo-Lang enum of the type, and two lists of values
give equal texts only if they are equal. -/
theorem enum_values_kept (t : TypeDef) :
    KeepsValues unionText (readUnion? t) t ∧ KeepsValues enumSchema (readEnumSchema? t) t ∧
      KeepsValues enumText (readEnumText? t) t := by
  refine ⟨unionStyle.keepsValues unionFront (fun _ => ";") unionText_eq ?_,
    enumSchemaStyle.keepsValues enumSchemaFront (fun t => describe t.description ++ ";")
      enumSchema_eq ?_,
    enumTextStyle.keepsValues enumTextFront (fun _ => ")") enumText_eq ?_⟩
  · exact ⟨by decide, by decide⟩
  · exact ⟨by simp [enumSchemaStyle], by simp [enumSchemaStyle]⟩
  · exact ⟨by decide, by decide⟩

/-- One value that looks like two, and the two. -/
example : unionStyle.write ["a\"|\"b"] = "\"a\\\"|\\\"b\"" ∧
    unionStyle.write ["a", "b"] = "\"a\"|\"b\"" := by
  decide

end SchemaTypes.Emit
