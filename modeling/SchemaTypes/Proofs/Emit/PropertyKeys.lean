import SchemaTypes.Emit.Zod
import SchemaTypes.Proofs.Json.Literals
import SchemaTypes.Proofs.Text.LinePositions

/-!
# `SchemaTypes.Proofs.Emit.PropertyKeys`: property names as tokens

The key of a property stands in front of its type, on the line of the
property. It is one token if the name is written as it is only where the
whole of it is an identifier, and is a string literal everywhere else:
neither an identifier nor a literal holds a control
(`IsPlainName.le_toNat`, `le_toNat_of_mem_literal`), and a literal can be
told from an identifier by its first character (`head?_ne_quote`).

The test for an identifier overlooks one line break at the end of a name
(`isIdentifier_dropFinalNewline_iff`). `IsPlainName` says what was meant
and `IsBrokenName` what is let through besides. `propertyKey_isKey_iff` is
the result: a name of the second sort, and no other, brings a line break
into the text of its type. Keys stay apart even so.
-/

set_option autoImplicit false

namespace SchemaTypes.Json

/-- Different texts have different literals, since by `readString_literal`
the text can be read back from its literal. -/
theorem quote_injective : Function.Injective quote := by
  intro s t h
  have hliteral : literal s.toList = literal t.toList := String.ofList_injective h
  have hread : ∀ u : String, readString (literal u.toList).tail = some (u, []) := by
    intro u
    exact readString_literal u []
  have hboth := hread t
  rw [← hliteral, hread s] at hboth
  exact congrArg Prod.fst (Option.some.inj hboth)

end SchemaTypes.Json

namespace SchemaTypes.Emit

/-! ## Plain names -/

/-- A name that needs no quotes: an ASCII letter, an underscore or a dollar
sign, then word characters of any script and dollar signs. -/
def IsPlainName (name : String) : Prop :=
  ∃ first rest, name.toList = first :: rest ∧
    (first.isAlpha = true ∨ first = '_' ∨ first = '$') ∧
    ∀ c ∈ rest, Text.isWordChar c = true ∨ c = '$'

/-- A plain name with a line break behind it. -/
def IsBrokenName (name : String) : Prop :=
  ∃ stem, IsPlainName stem ∧ name = stem ++ "\n"

/-- What `startsIdentifier` says of a first character, with the ranges of
letters put into the words of the standard library. -/
theorem startsIdentifier_iff (c : Char) :
    startsIdentifier c = true ↔ c.isAlpha = true ∨ c = '_' ∨ c = '$' := by
  have hupper : c.isUpper = true ↔ 'A' ≤ c ∧ c ≤ 'Z' := decide_eq_true_iff
  have hlower : c.isLower = true ↔ 'a' ≤ c ∧ c ≤ 'z' :=
    Bool.and_eq_true_iff.trans (and_congr decide_eq_true_iff decide_eq_true_iff)
  have halpha : c.isAlpha = (c.isUpper || c.isLower) := rfl
  rw [halpha, Bool.or_eq_true, hupper, hlower]
  simp [startsIdentifier, or_assoc]

/-- The test for identifiers, `isIdentifier`, accepts exactly the plain
names. -/
theorem isIdentifier_iff (name : String) :
    isIdentifier name.toList = true ↔ IsPlainName name := by
  unfold IsPlainName
  cases name.toList with
  | nil => simp [isIdentifier]
  | cons c rest =>
    have hcons : isIdentifier (c :: rest) = true ↔
        (c.isAlpha = true ∨ c = '_' ∨ c = '$') ∧
          ∀ d ∈ rest, Text.isWordChar d = true ∨ d = '$' := by
      simp [isIdentifier, startsIdentifier_iff, continuesIdentifier]
    rw [hcons]
    constructor
    · intro h
      exact ⟨c, rest, rfl, h⟩
    · rintro ⟨_, _, ⟨⟩, h⟩
      exact h

/-- Characters of a kind that has no controls are no controls. The kinds are
given by a test, of which only the first codes have to be computed.
`IsPlainName.le_toNat` uses it for both kinds. -/
theorem le_toNat_of_kind {kind : Char → Bool}
    (hcontrols : ∀ n < 0x20, kind (Char.ofNat n) = false) {c : Char} (hc : kind c = true) :
    0x20 ≤ c.toNat := by
  apply Nat.le_of_not_lt
  intro hcontrol
  have hkind := hcontrols c.toNat hcontrol
  rw [Char.ofNat_toNat, hc] at hkind
  cases hkind

/-- No control stands in a name that is `IsPlainName`: neither a letter nor
a word character of any script is one. -/
theorem IsPlainName.le_toNat {name : String} (h : IsPlainName name) {c : Char}
    (hc : c ∈ name.toList) : 0x20 ≤ c.toNat := by
  have hidentifier := (isIdentifier_iff name).mpr h
  cases hname : name.toList with
  | nil =>
    rw [hname] at hc
    cases hc
  | cons first rest =>
    rw [hname] at hc hidentifier
    simp only [isIdentifier, Bool.and_eq_true, List.all_eq_true] at hidentifier
    rcases List.mem_cons.mp hc with rfl | hc
    · exact le_toNat_of_kind (by decide) hidentifier.1
    · exact le_toNat_of_kind (by decide) (hidentifier.2 c hc)

/-- A plain name is written on one line, because a line break is a control
(`IsPlainName.le_toNat`). -/
theorem IsPlainName.newline_notMem {name : String} (h : IsPlainName name) :
    '\n' ∉ name.toList :=
  fun hc => absurd (h.le_toNat hc) (by decide)

/-! ## Keys -/

/-- One line break at the end of a name is overlooked (`dropFinalNewline`),
so the names that are written as they are comprise the broken ones. This is
the exception that all statements below have. -/
theorem isIdentifier_dropFinalNewline_iff (name : String) :
    isIdentifier (dropFinalNewline name.toList) = true ↔ IsPlainName name ∨ IsBrokenName name := by
  unfold dropFinalNewline
  by_cases hlast : name.toList.getLast? = some '\n'
  · -- No plain name ends with a line break, so what is left without it decides.
    obtain ⟨stem, hstem⟩ := List.getLast?_eq_some_iff.mp hlast
    have hname : name = String.ofList stem ++ "\n" := by
      apply String.toList_injective
      simp [hstem]
    have hdrop : name.toList.dropLast = (String.ofList stem).toList := by
      simp [hstem]
    have hnot : ¬ IsPlainName name := by
      intro hplain
      exact hplain.newline_notMem (by simp [hstem])
    rw [if_pos (by simpa using hlast), hdrop, isIdentifier_iff, or_iff_right hnot]
    constructor
    · intro hplain
      exact ⟨_, hplain, hname⟩
    · rintro ⟨other, hplain, hother⟩
      have heq : String.ofList stem = other := by
        apply String.toList_injective
        have := congrArg String.toList (hname.symm.trans hother)
        simpa using this
      rw [heq]
      exact hplain
  · have hnot : ¬ IsBrokenName name := by
      rintro ⟨stem, -, rfl⟩
      simp at hlast
    rw [if_neg (by simpa using hlast), isIdentifier_iff, or_iff_left hnot]

/-- A plain name is its own `propertyKey`. -/
theorem propertyKey_of_isPlainName {name : String} (h : IsPlainName name) :
    propertyKey name = name :=
  if_pos ((isIdentifier_dropFinalNewline_iff name).mpr (Or.inl h))

/-- A plain name with a line break behind it, an `IsBrokenName`, is its own
key as well, although it should not be. -/
theorem propertyKey_of_isBrokenName {name : String} (h : IsBrokenName name) :
    propertyKey name = name :=
  if_pos ((isIdentifier_dropFinalNewline_iff name).mpr (Or.inr h))

/-- Every other name has its literal, `Json.quote`, for a key. -/
theorem propertyKey_of_quoted {name : String} (hplain : ¬ IsPlainName name)
    (hbroken : ¬ IsBrokenName name) : propertyKey name = Json.quote name :=
  if_neg fun h => ((isIdentifier_dropFinalNewline_iff name).mp h).elim hplain hbroken

/-- A name that is written as it is does not look like a literal, as it
starts with a letter, an underscore or a dollar sign. Both `IsPlainName` and
`IsBrokenName` say so. -/
theorem head?_ne_quote {name : String} (h : IsPlainName name ∨ IsBrokenName name) :
    name.toList.head? ≠ some '"' := by
  have hfirst : ∀ stem, IsPlainName stem → ∃ first rest, stem.toList = first :: rest ∧
      first ≠ '"' := by
    rintro stem ⟨first, rest, hstem, hfirst, -⟩
    refine ⟨first, rest, hstem, ?_⟩
    rintro rfl
    exact absurd hfirst (by decide)
  rcases h with hplain | ⟨stem, hplain, rfl⟩
  · obtain ⟨first, rest, hname, hne⟩ := hfirst name hplain
    simpa [hname] using hne
  · obtain ⟨first, rest, hstem, hne⟩ := hfirst stem hplain
    simpa [hstem] using hne

/-- A key is the name itself, with something else than a quote in front, or
the literal of the name. The first covers `propertyKey_of_isPlainName` and
`propertyKey_of_isBrokenName`. -/
theorem propertyKey_cases (name : String) :
    (propertyKey name = name ∧ name.toList.head? ≠ some '"') ∨
      propertyKey name = Json.quote name := by
  by_cases hplain : IsPlainName name
  · exact Or.inl ⟨propertyKey_of_isPlainName hplain, head?_ne_quote (Or.inl hplain)⟩
  by_cases hbroken : IsBrokenName name
  · exact Or.inl ⟨propertyKey_of_isBrokenName hbroken, head?_ne_quote (Or.inr hbroken)⟩
  · exact Or.inr (propertyKey_of_quoted hplain hbroken)

/-- A literal that `Json.quote` writes starts with a quote. -/
theorem head?_quote (s : String) : (Json.quote s).toList.head? = some '"' := by
  simp [Json.quote, Json.literal]

/-- Different names have different keys. The first character tells which of
the two forms of `propertyKey_cases` a key has, and each form shows the
name. -/
theorem propertyKey_injective : Function.Injective propertyKey := by
  intro name other h
  -- Only a literal starts with a quote, so both names are of the same case.
  rcases propertyKey_cases name with ⟨hname, hhead⟩ | hname <;>
    rcases propertyKey_cases other with ⟨hother, hhead'⟩ | hother <;>
    rw [hname, hother] at h
  · exact h
  · exact absurd (h ▸ head?_quote other) hhead
  · exact absurd (h ▸ head?_quote name) hhead'
  · exact Json.quote_injective h

/-- The key of a broken name has the line break in it, because it is the
name (`propertyKey_of_isBrokenName`). -/
theorem newline_mem_propertyKey {name : String} (h : IsBrokenName name) :
    '\n' ∈ (propertyKey name).toList := by
  rw [propertyKey_of_isBrokenName h]
  obtain ⟨stem, -, rfl⟩ := h
  simp

/-- No control stands in the key of any other name: a plain name has none
(`IsPlainName.le_toNat`), and a literal escapes all of them. -/
theorem le_toNat_of_mem_propertyKey {name : String} (h : ¬ IsBrokenName name) {c : Char}
    (hc : c ∈ (propertyKey name).toList) : 0x20 ≤ c.toNat := by
  by_cases hplain : IsPlainName name
  · rw [propertyKey_of_isPlainName hplain] at hc
    exact hplain.le_toNat hc
  · rw [propertyKey_of_quoted hplain h, Json.quote, String.toList_ofList] at hc
    exact Json.le_toNat_of_mem_literal hc

/-- What the key of a name has to be: without controls, the name itself if
it is plain as a whole, and its literal otherwise. -/
structure IsKey (name key : String) : Prop where
  no_control : ∀ c ∈ key.toList, 0x20 ≤ c.toNat
  plain : IsPlainName name → key = name
  quoted : ¬ IsPlainName name → key = Json.quote name

/-- The key of a name is what it has to be (`IsKey`) exactly if the name is
not broken. A broken name has a line break in its key, which is a
control. -/
theorem isKey_propertyKey_iff (name : String) :
    IsKey name (propertyKey name) ↔ ¬ IsBrokenName name := by
  constructor
  · intro hkey hbroken
    have hcontrol := hkey.no_control '\n' (newline_mem_propertyKey hbroken)
    exact absurd hcontrol (by decide)
  · intro hbroken
    exact {
      no_control := fun c hc => le_toNat_of_mem_propertyKey hbroken hc
      plain := propertyKey_of_isPlainName
      quoted := fun hplain => propertyKey_of_quoted hplain hbroken }

/-! ## Lines -/

/-- A text that takes exactly one line. -/
def OneLine (text : String) : Prop :=
  (Text.lines text.toList).length = 1

/-- A text takes one line, in the sense of `OneLine`, exactly if it has no
line break. -/
theorem oneLine_iff (text : String) : OneLine text ↔ '\n' ∉ text.toList := by
  rw [OneLine, Text.length_lines, ← List.count_eq_zero]
  omega

instance (text : String) : Decidable (OneLine text) :=
  decidable_of_iff _ (oneLine_iff text).symm

/-- A text in two parts takes one line exactly if both parts do, since line
breaks are counted by `oneLine_iff` in each. -/
theorem oneLine_append_iff (front back : String) :
    OneLine (front ++ back) ↔ OneLine front ∧ OneLine back := by
  simp only [oneLine_iff, String.toList_append, List.mem_append, not_or]

/-- A literal takes one line, whatever its text holds, because `Json.quote`
writes no controls. -/
theorem oneLine_quote (s : String) : OneLine (Json.quote s) := by
  rw [oneLine_iff, Json.quote, String.toList_ofList]
  intro h
  exact absurd (Json.le_toNat_of_mem_literal h) (by decide)

/-- A key takes one line exactly if its name is not broken:
`newline_mem_propertyKey` and `le_toNat_of_mem_propertyKey` are the two
cases. -/
theorem oneLine_propertyKey_iff (name : String) :
    OneLine (propertyKey name) ↔ ¬ IsBrokenName name := by
  rw [oneLine_iff]
  constructor
  · intro hline hbroken
    exact hline (newline_mem_propertyKey hbroken)
  · intro hbroken hline
    exact absurd (le_toNat_of_mem_propertyKey hbroken hline) (by decide)

/-- A text that takes one line does so however often it is repeated. Array
levels are written in this way, by `String.join`. -/
theorem oneLine_join_replicate {text : String} (h : OneLine text) (n : Nat) :
    OneLine (String.join (List.replicate n text)) := by
  rw [oneLine_iff] at h ⊢
  simp [String.toList_join, h]

/-- A description is written by `describe` as a literal and takes one
line. -/
theorem oneLine_describe (description : Option String) : OneLine (describe description) := by
  unfold describe
  split
  · rw [oneLine_append_iff, oneLine_append_iff]
    exact ⟨⟨by decide, oneLine_quote _⟩, by decide⟩
  · decide

/-- Of what stands on the line of a property in an interface, only its name
and its type can bring in a line break. The lines of its comment stand above
it, so the last line of `interfaceProperty` is looked at. -/
theorem oneLine_interfaceProperty (p : Property) :
    ∃ line, (interfaceProperty p).getLast? = some line ∧
      (OneLine line ↔ ¬ IsBrokenName p.name ∧ OneLine p.type.tsType) := by
  have hmark : OneLine (optionalMark p) := by
    unfold optionalMark
    split <;> decide
  have hlevels := oneLine_join_replicate (show OneLine "[]" by decide) p.arrayDimensions
  refine ⟨_, List.getLast?_concat, ?_⟩
  simp only [oneLine_append_iff, oneLine_propertyKey_iff, hmark, hlevels, and_true,
    show OneLine indent by decide, show OneLine ":" by decide, show OneLine ";" by decide, true_and]

/-- In an object schema a property (`schemaProperty`) takes one line exactly
if its name is not broken and its schema is written on one line. -/
theorem oneLine_schemaProperty_iff (p : Property) :
    OneLine (schemaProperty p) ↔ ¬ IsBrokenName p.name ∧ OneLine p.type.zodType := by
  have hmark : OneLine (if p.optional then ".optional()" else "") := by
    split <;> decide
  have hlevels := oneLine_join_replicate (show OneLine ".array()" by decide) p.arrayDimensions
  simp only [schemaProperty, propertySchema, oneLine_append_iff, oneLine_propertyKey_iff, hmark,
    hlevels, oneLine_describe, and_true, true_and, show OneLine indent by decide,
    show OneLine ":" by decide, show OneLine "," by decide]

/-- **Keys are single tokens, with one exception.** The key of a name is
what it has to be exactly if the name is not a plain one with a line break
behind it; such a name is written as it is, line break included. No other
name has the same key, without exception. A property of that name takes
exactly one line in an interface and in an object schema if the name is no
such name and the type is written on one line, and only then. -/
theorem propertyKey_isKey_iff (name : String) :
    (IsKey name (propertyKey name) ↔ ¬ IsBrokenName name) ∧
    (IsBrokenName name → propertyKey name = name) ∧
    (∀ other, propertyKey other = propertyKey name → other = name) ∧
    ∀ p : Property, p.name = name →
      (∃ line, (interfaceProperty p).getLast? = some line ∧
        (OneLine line ↔ ¬ IsBrokenName name ∧ OneLine p.type.tsType)) ∧
      (OneLine (schemaProperty p) ↔ ¬ IsBrokenName name ∧ OneLine p.type.zodType) := by
  refine ⟨isKey_propertyKey_iff name, propertyKey_of_isBrokenName, ?_, ?_⟩
  · intro other h
    exact propertyKey_injective h
  · rintro p rfl
    exact ⟨oneLine_interfaceProperty p, oneLine_schemaProperty_iff p⟩

/-- The line break is quoted with the rest of a name that is not plain. -/
example : propertyKey "a\n" = "a\n" ∧ propertyKey "a b\n" = "\"a b\\n\"" := by
  decide

end SchemaTypes.Emit
