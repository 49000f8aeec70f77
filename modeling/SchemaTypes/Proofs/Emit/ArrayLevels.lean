import SchemaTypes.Emit.Convo
import SchemaTypes.Proofs.Declaration.TableElements
import SchemaTypes.Proofs.Emit.Blocks
import SchemaTypes.Proofs.Model.Gathering

/-!
# `SchemaTypes.Proofs.Emit.ArrayLevels`: array levels from the tree to the targets

The levels of an array type are counted twice on their way: the tree of a
type becomes a column type with as many levels, and the levels of a column
type become a number at its property. Each target then spells the number
out in its own way. A level that is lost or counted twice would change the
generated type and nothing would fail.

`Tree.ArrayOf` says what it means that a tree has `n` levels around a base,
`KeepsLevels` what the property of such a column has to be, and `Renders`
what every target has to make of it. `array_levels_kept` goes all the way
from a statement to the texts of both variants of its table.
-/

set_option autoImplicit false

namespace SchemaTypes.Sql.Tree

/-- A type inside `n` array levels. What a level holds besides its element
does not count. -/
inductive ArrayOf (base : Tree) : Nat → Tree → Prop
  | base : ArrayOf base 0 base
  | level {n : Nat} {element : Tree} {more : List Tree} : ArrayOf base n element →
      ArrayOf base (n + 1) (.dataType "ARRAY" (element :: more))

/-- Whether a tree is itself an array level. An array without an element
is not. -/
def IsLevel (tree : Tree) : Prop :=
  ∃ element more, tree = .dataType "ARRAY" (element :: more)

end SchemaTypes.Sql.Tree

namespace SchemaTypes.Declaration

open Sql (Token Tree Span)

/-- What is no array level, in the sense of `Tree.IsLevel`, denotes a type
without levels. -/
theorem dataType_of_not_isLevel {base : Tree} {b : DataType} (hbase : ¬ base.IsLevel)
    (h : dataType base = .ok b) : b = .named b.name := by
  cases b with
  | named name => rfl
  | array name inner =>
    -- Only an array level denotes an array.
    exfalso
    unfold dataType at h
    split at h
    case h_1 name element more =>
      split at h
      case isTrue hname =>
        obtain rfl : name = "ARRAY" := by simpa using hname
        exact hbase ⟨element, more, rfl⟩
      case isFalse => cases h
    case h_5 =>
      obtain ⟨text, -, hd⟩ := Proofs.map_eq_ok_iff.mp h
      cases hd
    all_goals cases h

/-- A tree denotes a type with the levels it has (`Tree.ArrayOf`), around
the type that its base denotes. -/
theorem dataType_of_arrayOf {base tree : Tree} {n : Nat} {b : DataType}
    (hlevels : Tree.ArrayOf base n tree) (hb : dataType base = .ok b) :
    ∃ d, dataType tree = .ok d ∧ d.base = b.base ∧ d.depth = n + b.depth := by
  -- By induction on the levels; each one that is passed adds one to the depth.
  induction hlevels with
  | base => exact ⟨b, hb, rfl, (Nat.zero_add _).symm⟩
  | @level n element more _ ih =>
    obtain ⟨d, hd, hbase, hdepth⟩ := ih
    refine ⟨.array "array" d, ?_, hbase, ?_⟩
    · rw [dataType, if_pos (by decide), hd]
      rfl
    · show d.depth + 1 = n + 1 + b.depth
      omega

/-- A column definition of a table that is read gives a column with the type
that its tree denotes (`Proofs.exists_mem_of_forall₂`). -/
theorem exists_column_of_mem {tokens : List Token} {root : Option Tree} {t : Table}
    (h : ofStatement tokens root = .ok (.table t)) {name : String} {type : Tree}
    {constraints : List Tree}
    (hmem : Tree.columnDef (some name) (some type) constraints ∈ tableElements root) :
    ∃ c ∈ t.columns, c.name = name ∧ dataType type = .ok c.dataType := by
  obtain ⟨parts, hparts, hcolumns, -⟩ := ofStatement_eq_table h
  obtain ⟨part, hpart, span, helement⟩ := Proofs.exists_mem_of_forall₂ hparts hmem
  obtain ⟨c, hc, rfl⟩ := Proofs.map_eq_ok_iff.mp helement
  refine ⟨c, ?_, ?_⟩
  · rw [hcolumns]
    exact List.mem_filterMap.mpr ⟨_, hpart, rfl⟩
  · -- A column without a name would have been refused.
    simp only [column, Option.getD_some] at hc
    split at hc
    · cases hc
    · obtain ⟨d, hd, rfl⟩ := Proofs.map_eq_ok_iff.mp hc
      exact ⟨rfl, hd⟩

end SchemaTypes.Declaration

namespace SchemaTypes.Emit

/-- A text written `n` times. -/
def times (n : Nat) (text : String) : String :=
  String.join (List.replicate n text)

/-- A text one more time, put in front of those that `times` has. -/
theorem times_succ (n : Nat) (text : String) : times (n + 1) text = text ++ times n text := by
  simp [times, List.replicate_succ]

/-- A text one more time, put behind those that `times` has. Levels close in
this order. -/
theorem times_succ' (n : Nat) (text : String) : times (n + 1) text = times n text ++ text := by
  simp [times, List.replicate_succ']

/-- The levels of a type open in front of it and close behind it. The
recursion of `arrayType` wraps a level around the whole, so the counts grow
on both sides. -/
theorem arrayType_eq (type : String) (n : Nat) :
    arrayType type n = times n "array(" ++ type ++ times n ")" := by
  induction n with
  | zero => simp [arrayType, times]
  | succ n ih =>
    rw [arrayType, ih, times_succ, times_succ']
    simp only [String.append_assoc]

/-! ## Lines of a property -/

/-- The line of a property in an interface, if its type has `n` levels
around the mapped one. -/
def interfaceLine (n : Nat) (mapping : TypeMapping) (p : Property) : String :=
  indent ++ propertyKey p.name ++ optionalMark p ++ ":" ++ mapping.tsType ++ times n "[]" ++ ";"

/-- The schema of such a property. Whether it may be left out is said of
the array, not of its elements. -/
def arraySchema (n : Nat) (mapping : TypeMapping) (p : Property) : String :=
  mapping.zodType ++ times n ".array()" ++ (if p.optional then ".optional()" else "") ++
    describe p.description

/-- The line of such a property in a schema. -/
def schemaLine (n : Nat) (mapping : TypeMapping) (p : Property) : String :=
  indent ++ propertyKey p.name ++ ":" ++ arraySchema n mapping p ++ ","

/-- The line of such a property in a struct. -/
def structLine (n : Nat) (mapping : TypeMapping) (p : Property) : String :=
  indent ++ p.name ++ optionalMark p ++ ": " ++
    (times n "array(" ++ mapping.convoType ++ times n ")")

/-- Whether a text has a line, with further lines on both sides. -/
def HasLine (text line : String) : Prop :=
  ∃ front back, text = front ++ "\n" ++ line ++ "\n" ++ back

/-- A line that stands between others stands in the text on a line of its
own, as `HasLine` says. -/
theorem hasLine_joinText {top body bottom : List String} (htop : top ≠ []) (hbottom : bottom ≠ [])
    {line : String} (hline : line ∈ body) : HasLine (joinText (top ++ body ++ bottom)) line := by
  obtain ⟨before, behind, rfl⟩ := List.append_of_mem hline
  have habove : top ++ before ≠ [] := by simp [htop]
  have hbelow : behind ++ bottom ≠ [] := by simp [hbottom]
  refine ⟨joinText (top ++ before), joinText (behind ++ bottom), ?_⟩
  calc joinText (top ++ (before ++ line :: behind) ++ bottom)
      = joinText ((top ++ before) ++ line :: (behind ++ bottom)) := by simp
    _ = joinText (top ++ before) ++ "\n" ++ (line ++ "\n" ++ joinText (behind ++ bottom)) := by
        rw [joinText_append habove (List.cons_ne_nil _ _), joinText_cons line hbelow]
    _ = joinText (top ++ before) ++ "\n" ++ line ++ "\n" ++ joinText (behind ++ bottom) := by
        simp only [String.append_assoc]

/-- What the property of a column has to be, if its type has `n` levels
around a type with the given mapping and name. -/
structure KeepsLevels (n : Nat) (mapping : TypeMapping) (name : String) (p : Property) : Prop where
  dimensions : p.arrayDimensions = n
  isArray : p.isArray = true ↔ 0 < n
  type : p.type = { mapping with ts := some mapping.tsType, sql := some name }

/-- How every target has to spell such a property. In an interface and in
a struct its comment stands in front. -/
structure Renders (n : Nat) (mapping : TypeMapping) (p : Property) : Prop where
  interface : (interfaceProperty p).getLast? = some (interfaceLine n mapping p)
  schema : propertySchema p = arraySchema n mapping p
  struct : (structProperty p).getLast? = some (structLine n mapping p)

/-- The lines that the texts of a record have to hold. -/
structure Spells (n : Nat) (mapping : TypeMapping) (p : Property) (r : TypeRecord) : Prop where
  interface : HasLine (interfaceText r) (interfaceLine n mapping p)
  schema : HasLine (objectSchema r) (schemaLine n mapping p)
  struct : HasLine (structText r) (structLine n mapping p)

/-- A property that keeps its levels (`KeepsLevels`) is spelled with them in
every target (`Renders`). -/
theorem KeepsLevels.renders {n : Nat} {mapping : TypeMapping} {name : String} {p : Property}
    (h : KeepsLevels n mapping name p) : Renders n mapping p where
  interface := by
    simp [interfaceProperty, interfaceLine, times, h.dimensions, h.type, TypeMapping.tsType]
  schema := by
    simp [propertySchema, arraySchema, times, h.dimensions, h.type, TypeMapping.zodType]
  struct := by
    simp [structProperty, structLine, arrayType_eq, optionalMark, h.dimensions, h.type,
      TypeMapping.convoType]

/-- The lines of a property stand in the texts of its record, by
`hasLine_joinText` for each target. -/
theorem Renders.spells {n : Nat} {mapping : TypeMapping} {p : Property} (h : Renders n mapping p)
    {r : TypeRecord} (hp : p ∈ r.typeDef.props) : Spells n mapping p r where
  interface := by
    have hline := List.mem_of_getLast? h.interface
    exact hasLine_joinText (by simp) (by simp) (List.mem_flatMap.mpr ⟨p, hp, hline⟩)
  schema := by
    have hline : schemaProperty p = schemaLine n mapping p := by
      rw [schemaProperty, h.schema, schemaLine]
    exact hasLine_joinText (by simp) (by simp) (List.mem_map.mpr ⟨p, hp, hline⟩)
  struct := by
    have hline := List.mem_of_getLast? h.struct
    exact hasLine_joinText (by simp) (by simp) (List.mem_flatMap.mpr ⟨p, hp, hline⟩)

end SchemaTypes.Emit

namespace SchemaTypes.Build

open Sql (Token Tree)
open Declaration (dataType tableElements ofStatement)
open Emit (KeepsLevels Renders Spells)

/-- The property of a column counts the levels of its type, and its type is
that of the base. So `KeepsLevels` holds of it by definition, and every
target has the levels to write. -/
theorem keepsLevels_property (s : Settings) (m : TypeMap) (keys : List String) (shape : Shape)
    (column : Column) :
    KeepsLevels column.dataType.depth (m.resolve column.dataType.base) column.dataType.base
      (property s m keys shape column) where
  dimensions := rfl
  isArray := by simp [property]
  type := rfl

/-- **Array levels are kept.** Take the tree of a type with `n` array levels
around a base that denotes a type and is no array level itself.

- The tree denotes a type with `n` levels around that of the base.
- The property made of any column of that type, in any variant, has `n`
  dimensions and the mapping of the base, and every target spells it with
  `n` levels.
- Take a statement that declares a table with such a column, and any build
  over declarations of known kinds that contains the table. The build
  succeeds, and both variants of the table have such a property and its
  lines in all their texts. -/
theorem array_levels_kept {base tree : Tree} {n : Nat} {b : DataType}
    (hlevels : Tree.ArrayOf base n tree) (hbase : ¬ base.IsLevel) (hb : dataType base = .ok b) :
    (∃ d, dataType tree = .ok d ∧ DataType.named d.base = b ∧ d.depth = n) ∧
    (∀ (s : Settings) (m : TypeMap) (keys : List String) (shape : Shape) (column : Column),
      dataType tree = .ok column.dataType →
      KeepsLevels n (m.resolve b.name) b.name (property s m keys shape column) ∧
      Renders n (m.resolve b.name) (property s m keys shape column)) ∧
    ∀ (tokens : List Token) (root : Option Tree) (t : Table) (name : String)
      (constraints : List Tree), ofStatement tokens root = .ok (.table t) →
      Tree.columnDef (some name) (some tree) constraints ∈ tableElements root →
      ∀ (s : Settings) (state : State) (ds : List Declaration), (∀ d ∈ ds, isKnown d) →
      Declaration.table t ∈ ds →
      ∃ final model, run s state ds = (final, .ok model) ∧
        ∀ shape, shape ≠ Shape.enum →
          ∃ r ∈ model.records, r.shape = shape ∧ r.typeDef.sqlTable = some t.name ∧
            ∃ p ∈ r.typeDef.props, p.name = name ∧
              KeepsLevels n (final.typeMap.resolve b.name) b.name p ∧
              Spells n (final.typeMap.resolve b.name) p r := by
  have hnamed := Declaration.dataType_of_not_isLevel hbase hb
  obtain ⟨d, hd, hbaseName, hdepth⟩ := Declaration.dataType_of_arrayOf hlevels hb
  rw [hnamed] at hbaseName hdepth
  -- Whatever column the tree was read for, its type is `d`.
  have hproperty : ∀ (s : Settings) (m : TypeMap) (keys : List String) (shape : Shape)
      (column : Column), dataType tree = .ok column.dataType →
      KeepsLevels n (m.resolve b.name) b.name (property s m keys shape column) := by
    intro s m keys shape column hcolumn
    have htype : column.dataType = d := Except.ok.inj (hcolumn.symm.trans hd)
    have hkeeps := keepsLevels_property s m keys shape column
    rw [htype, hbaseName, hdepth] at hkeeps
    exact hkeeps
  refine ⟨⟨d, hd, ?_, hdepth⟩, ?_, ?_⟩
  · rw [hbaseName]
    exact hnamed.symm
  · intro s m keys shape column hcolumn
    have hkeeps := hproperty s m keys shape column hcolumn
    exact ⟨hkeeps, hkeeps.renders⟩
  · intro tokens root t name constraints hread hmem s state ds hknown ht
    obtain ⟨c, hc, hname, htype⟩ := Declaration.exists_column_of_mem hread hmem
    refine ⟨_, _, run_eq_gathered s state ds hknown, ?_⟩
    intro shape hshape
    have hkeeps := hproperty s (gathered s state ds).typeMap t.primaryKeys shape c htype
    have hp : property s (gathered s state ds).typeMap t.primaryKeys shape c ∈
        (tableRecord s (gathered s state ds).typeMap t shape).typeDef.props :=
      List.mem_map_of_mem hc
    exact ⟨_, tableRecord_mem_model ht hshape, rfl, rfl, _, hp, hname, hkeeps,
      hkeeps.renders.spells hp⟩

/-- The tree of `text[][]`. -/
def gridType : Tree :=
  .dataType "ARRAY" [.dataType "ARRAY" [.dataType "TEXT" []]]

/-- A table with a column of this type. -/
def gridTree : Tree :=
  .create (some "TABLE") (some (.schema (some (.table (some "grid") none))
    [.columnDef (some "cells") (some gridType) []]))

/-- The table that `gridTree` declares, if the statement is one token
long. -/
def gridTable : Table where
  name := "grid"
  columns := [{ name := "cells", dataType := .array "array" (.array "array" (.named "text")) }]
  extent := ⟨some 0, some 4⟩

/-- Both levels arrive in the text of the type for insertion. -/
theorem array_levels_kept_grid :
    Tree.ArrayOf (.dataType "TEXT" []) 2 gridType ∧ ¬ Tree.IsLevel (.dataType "TEXT" []) ∧
    dataType (.dataType "TEXT" []) = .ok (.named "text") ∧
    ofStatement [⟨.word, "grid", 0, 3⟩] (some gridTree) = .ok (.table gridTable) ∧
    ∃ final model, run { source := [] } { typeMap := .builtin } [.table gridTable] =
        (final, .ok model) ∧
      ∃ r ∈ model.records, r.shape = .insert ∧ ∃ p ∈ r.typeDef.props, p.name = "cells" ∧
        p.arrayDimensions = 2 ∧
        Emit.HasLine (Emit.interfaceText r) (Emit.interfaceLine 2 TypeMap.textMapping p) := by
  have hlevels : Tree.ArrayOf (.dataType "TEXT" []) 2 gridType := .level (.level .base)
  have hbase : ¬ Tree.IsLevel (.dataType "TEXT" []) := by
    rintro ⟨element, more, heq⟩
    simp at heq
  have hb : dataType (.dataType "TEXT" []) = .ok (.named "text") := by rfl
  have hread : ofStatement [⟨.word, "grid", 0, 3⟩] (some gridTree) = .ok (.table gridTable) := by
    rfl
  obtain ⟨-, -, hbuild⟩ := array_levels_kept hlevels hbase hb
  obtain ⟨final, model, hrun, hvariants⟩ := hbuild _ _ _ _ _ hread List.mem_cons_self
    { source := [] } { typeMap := .builtin } [.table gridTable] (by decide) List.mem_cons_self
  obtain ⟨r, hr, hshape, -, p, hp, hname, hkeeps, hspells⟩ := hvariants .insert (by decide)
  -- No enum is declared, so the built-in mapping of texts is used.
  have hmapping : final.typeMap.resolve "text" = TypeMap.textMapping := by
    obtain rfl : _ = final := congrArg Prod.fst hrun
    rfl
  have hline := hspells.interface
  rw [show (DataType.named "text").name = "text" from rfl, hmapping] at hline
  exact ⟨hlevels, hbase, hb, hread, final, model, hrun, r, hr, hshape, p, hp, hname,
    hkeeps.dimensions, hline⟩

end SchemaTypes.Build
