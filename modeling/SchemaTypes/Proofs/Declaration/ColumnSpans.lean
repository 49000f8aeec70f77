import SchemaTypes.Proofs.Declaration.Extents
import SchemaTypes.Proofs.Sql.ElementLists

/-!
# `SchemaTypes.Proofs.Declaration.ColumnSpans`: each column has the span of its element

The tree of a table lists its elements, and the tokens show where elements
stand, but nothing ties one to the other except their order.
`columns_at_elements` says what comes of that. If both show as many
elements, each column definition has the span of the element at its own
place, whatever constraints stand between the columns. If they do not, no
column has a place.

Whether a table is read at all does not hang on the tokens: a span is only
ever copied into a column (`element_eq_map`), so elements that can be read
without spans can be read with any.
-/

set_option autoImplicit false

namespace SchemaTypes.Declaration

open Sql (Token Tree Span ElementList spansOf)

/-- The columns that elements define, each with the place of its element. -/
def columnsAt (trees : List Tree) (spans : List Span) : List (String × Extent) :=
  (trees.zip spans).filterMap fun pair =>
    (columnDef? pair.1).map fun c => (c.name, extentOf pair.2)

/-! ## Elements with and without spans -/

/-- A column at the place that a span names. -/
def placedColumn (span : Option Span) (c : Column) : Column :=
  { c with extent := (span.map extentOf).getD {} }

/-- An element with its column, if it is one, at the place that a span
names. -/
def Element.placedAt (span : Option Span) : Element → Element
  | .column c => .column (placedColumn span c)
  | .constraint c => .constraint c

/-- A span does nothing to a column but to place it, by `placedColumn`. -/
theorem column_eq_map (table name : String) (type : Option Tree) (constraints : List Tree)
    (span : Option Span) :
    column table name type constraints span =
      (column table name type constraints none).map (placedColumn span) := by
  cases type with
  | none => rfl
  | some type =>
    simp only [column]
    split
    · rfl
    · cases dataType type <;> rfl

/-- A span does nothing to an element but to place its column
(`column_eq_map`), and a constraint has no place. -/
theorem element_eq_map (table : String) (tree : Tree) (span : Option Span) :
    element table tree span = (element table tree none).map (Element.placedAt span) := by
  unfold element
  split
  case h_1 name type constraints =>
    rw [column_eq_map]
    cases column table (name.getD "") type constraints none <;> rfl
  case h_2 => cases constraintOf tree <;> rfl

/-- Whether an element can be read does not hang on its span, because the
span is added by `element_eq_map` at the end. -/
theorem exists_element_iff (table : String) (tree : Tree) (span : Option Span) :
    (∃ part, element table tree span = .ok part) ↔
      ∃ part, element table tree none = .ok part := by
  rw [element_eq_map table tree span]
  constructor
  · rintro ⟨part, hpart⟩
    obtain ⟨bare, hbare, -⟩ := Proofs.map_eq_ok_iff.mp hpart
    exact ⟨bare, hbare⟩
  · rintro ⟨bare, hbare⟩
    exact ⟨_, Proofs.map_eq_ok_iff.mpr ⟨bare, hbare, rfl⟩⟩

/-- Elements are read if each of them can be read by itself. No element
looks at another, and by `exists_element_iff` none looks at its span. -/
theorem exists_readElements_iff {tokens : List Token} {table : String} {trees : List Tree} :
    (∃ parts, readElements tokens table trees = .ok parts) ↔
      ∀ tree ∈ trees, ∃ part, element table tree none = .ok part := by
  constructor
  · rintro ⟨parts, hparts⟩
    have hread : List.Forall₂ (fun tree part => ∃ span, element table tree span = .ok part)
        trees parts :=
      Proofs.forall₂_of_zip (length_spansFor tokens _).symm (Proofs.mapM_eq_ok_iff.mp hparts)
    clear hparts
    induction hread with
    | nil => exact fun _ htree => nomatch htree
    | cons hpart _ ih =>
      obtain ⟨span, hpart⟩ := hpart
      exact List.forall_mem_cons.mpr ⟨(exists_element_iff table _ span).mp ⟨_, hpart⟩, ih⟩
  · intro hall
    cases hread : readElements tokens table trees with
    | ok parts => exact ⟨parts, rfl⟩
    | error e =>
      -- The first element that is refused could have been read.
      obtain ⟨before, pair, behind, hpairs, -, hpair⟩ := Proofs.mapM_eq_error_iff.mp hread
      have hmem : pair ∈ trees.zip (spansFor tokens trees.length) :=
        hpairs ▸ List.mem_append_right _ List.mem_cons_self
      obtain ⟨part, hpart⟩ :=
        (exists_element_iff table pair.1 pair.2).mpr (hall pair.1 (List.of_mem_zip hmem).1)
      rw [hpart] at hpair
      cases hpair

/-- A column that is read has the name of its definition, which `columnDef?`
finds, and the place of its element. -/
theorem column?_of_element {table : String} {tree : Tree} {span : Option Span} {part : Element}
    (h : element table tree span = .ok part) :
    (part.column?.map fun c => (c.name, c.extent)) =
      (columnDef? tree).map fun c => (c.name, (span.map extentOf).getD {}) := by
  have hcolumn := rel_column?_of_element_eq_ok h
  have hextent : ∀ c, part.column? = some c → c.extent = (span.map extentOf).getD {} :=
    fun _ hc => extent_of_element h hc
  -- The tree defines a column just if the element is one, so both sides are there together.
  generalize columnDef? tree = defined at hcolumn ⊢
  generalize part.column? = read at hcolumn hextent ⊢
  cases hcolumn with
  | none => rfl
  | @some c column hreads => rw [Option.map_some, Option.map_some, hreads.name, hextent column rfl]

/-- The columns of elements that were read, with their places, are the
column definitions with the places of their elements. This is
`column?_of_element` along a list. -/
theorem columns_of_elements {table : String} {pairs : List (Tree × Option Span)}
    {parts : List Element}
    (h : List.Forall₂ (fun pair part => element table pair.1 pair.2 = .ok part) pairs parts) :
    ((parts.filterMap Element.column?).map fun c => (c.name, c.extent)) =
      pairs.filterMap fun pair =>
        (columnDef? pair.1).map fun c => (c.name, (pair.2.map extentOf).getD {}) := by
  rw [List.map_filterMap]
  induction h with
  | nil => rfl
  | cons hpart _ ih =>
    rw [List.filterMap_cons, List.filterMap_cons, column?_of_element hpart, ih]

/-! ## Tables -/

/-- A table that is declared has a name, and its columns come from its
elements, as `tableOf_cases` tells. -/
theorem readElements_of_tableOf {tokens : List Token} {name : String} {schema : Option String}
    {trees : List Tree} {t : Table}
    (h : tableOf tokens (some (.schema (some (.table (some name) schema)) trees)) =
      .ok (.table t)) :
    name ≠ "" ∧ ∃ parts, readElements tokens name trees = .ok parts ∧
      t.columns = parts.filterMap Element.column? := by
  rcases tableOf_cases tokens (some (.schema (some (.table (some name) schema)) trees)) with
    ⟨⟨what, hwhat⟩, -⟩ | ⟨_, _, _, ⟨⟩, hname, heq⟩
  · rw [hwhat] at h
    cases h
  · rw [heq] at h
    obtain ⟨parts, hparts, h⟩ := Proofs.bind_eq_ok_iff.mp h
    obtain ⟨extent, -, h⟩ := Proofs.bind_eq_ok_iff.mp h
    obtain rfl := Declaration.table.inj (Except.ok.inj h)
    exact ⟨hname, parts, hparts, rfl⟩

/-- A table is declared if it has a name and its elements can be read. Where
its tokens stand does not matter for that (`exists_readElements_iff`). -/
theorem exists_tableOf_iff {tokens : List Token} (hne : tokens ≠ []) {name : String}
    {schema : Option String} {trees : List Tree} :
    (∃ t, tableOf tokens (some (.schema (some (.table (some name) schema)) trees)) =
        .ok (.table t)) ↔
      name ≠ "" ∧ ∀ tree ∈ trees, ∃ part, element name tree none = .ok part := by
  rw [← exists_readElements_iff]
  constructor
  · rintro ⟨t, ht⟩
    obtain ⟨hname, parts, hparts, -⟩ := readElements_of_tableOf ht
    exact ⟨hname, parts, hparts⟩
  · rintro ⟨hname, parts, hparts⟩
    rcases tableOf_cases tokens (some (.schema (some (.table (some name) schema)) trees)) with
      ⟨-, hnameless⟩ | ⟨_, _, _, ⟨⟩, -, heq⟩
    · exact absurd (hnameless name schema trees rfl) hname
    · rw [heq, hparts, statementExtent_eq_ok hne]
      exact ⟨_, rfl⟩

/-- **Each column has the span of its element.** Take tokens with a list of
elements in their first parentheses. The spans that they show are those of
the elements that are not empty, whatever stands behind the list. A tree
of a table gives a table if it has a name and elements that can be read.
If it has as many elements as there are spans, the columns of the table
are its column definitions in order, each with the span at its own place
among all elements; otherwise no column has a place. -/
theorem columns_at_elements (l : ElementList) :
    Sql.elementSpans l.tokens = spansOf l.elements ∧
      ∀ (name : String) (schema : Option String) (trees : List Tree),
        ((∃ t, tableOf l.tokens (some (.schema (some (.table (some name) schema)) trees)) =
            .ok (.table t)) ↔
          name ≠ "" ∧ ∀ tree ∈ trees, ∃ part, element name tree none = .ok part) ∧
        ∀ t, tableOf l.tokens (some (.schema (some (.table (some name) schema)) trees)) =
            .ok (.table t) →
          ((spansOf l.elements).length = trees.length →
            (t.columns.map fun c => (c.name, c.extent)) =
              columnsAt trees (spansOf l.elements)) ∧
          ((spansOf l.elements).length ≠ trees.length → ∀ c ∈ t.columns, c.extent = {}) := by
  have hspans := l.elementSpans_eq
  refine ⟨hspans, fun name schema trees => ⟨exists_tableOf_iff l.tokens_ne_nil, ?_⟩⟩
  intro t ht
  obtain ⟨-, parts, hparts, hcolumns⟩ := readElements_of_tableOf ht
  have hread := Proofs.mapM_eq_ok_iff.mp hparts
  rw [hcolumns]
  constructor
  · intro hcount
    -- As many spans as elements: each element has the span at its place.
    have hfor : spansFor l.tokens trees.length = (spansOf l.elements).map some := by
      rw [← hspans] at hcount ⊢
      exact if_pos hcount
    rw [columns_of_elements hread, hfor, List.zip_map_right, List.filterMap_map]
    rfl
  · intro hcount
    -- Another number of spans: none of them is given to an element.
    have hfor : spansFor l.tokens trees.length = List.replicate trees.length none := by
      rw [← hspans] at hcount
      exact if_neg hcount
    refine extent_of_spanless hread fun pair hpair => ?_
    rw [hfor] at hpair
    exact List.eq_of_mem_replicate (List.of_mem_zip hpair).2

/-- The tokens of `create table t (a int, primary key (a, b),, b text[]) (x)`:
a key between two columns, an empty element, and more parentheses behind
the list. -/
def keyedList : ElementList where
  before := [⟨.word, "create", 0, 5⟩, ⟨.word, "table", 7, 11⟩, ⟨.word, "t", 13, 13⟩]
  opening := ⟨.openParen, "(", 15, 15⟩
  first := [⟨.word, "a", 16, 16⟩, ⟨.word, "int", 18, 20⟩]
  others :=
    [(⟨.comma, ",", 21, 21⟩,
      [⟨.word, "PRIMARY KEY", 23, 33⟩, ⟨.openParen, "(", 35, 35⟩, ⟨.word, "a", 36, 36⟩,
       ⟨.comma, ",", 37, 37⟩, ⟨.word, "b", 39, 39⟩, ⟨.closeParen, ")", 40, 40⟩]),
     (⟨.comma, ",", 41, 41⟩, []),
     (⟨.comma, ",", 42, 42⟩,
      [⟨.word, "b", 44, 44⟩, ⟨.word, "text", 46, 49⟩, ⟨.openBracket, "[", 50, 50⟩,
       ⟨.closeBracket, "]", 51, 51⟩])]
  closing := ⟨.closeParen, ")", 52, 52⟩
  behind := [⟨.openParen, "(", 54, 54⟩, ⟨.word, "x", 55, 55⟩, ⟨.closeParen, ")", 56, 56⟩]
  before_kind := by decide
  opening_kind := rfl
  first_balanced := .token rfl rfl (by decide) (.token rfl rfl (by decide) (.nil false))
  comma_kind := by decide
  other_balanced := by
    have hkey : Sql.Balanced true
        [⟨.word, "a", 36, 36⟩, ⟨.comma, ",", 37, 37⟩, ⟨.word, "b", 39, 39⟩] :=
      .token rfl rfl nofun (.token rfl rfl nofun (.token rfl rfl nofun (.nil true)))
    simp only [List.forall_mem_cons]
    refine ⟨?_, .nil false, ?_, fun _ h => nomatch h⟩
    · exact .token rfl rfl (by decide) (@Sql.Balanced.group false _ _ _ _ rfl rfl hkey (.nil false))
    · exact .token rfl rfl (by decide) (.token rfl rfl (by decide)
        (@Sql.Balanced.group false _ _ [] _ rfl rfl (.nil true) (.nil false)))
  closing_kind := rfl

/-- The elements of `keyedList` as a tree has them. -/
def keyedTrees : List Tree :=
  [.columnDef (some "a") (some (.dataType "INT" [])) [],
   .primaryKey [.identifier "a", .identifier "b"],
   .columnDef (some "b") (some (.dataType "ARRAY" [.dataType "TEXT" []])) []]

/-- The columns stand where the first and the third element do. With one
element less in the tree, the column that is left has no place. -/
theorem columns_at_elements_keyed :
    (∃ t, tableOf keyedList.tokens
        (some (.schema (some (.table (some "t") none)) keyedTrees)) = .ok (.table t) ∧
      (t.columns.map fun c => (c.name, c.extent)) =
        [("a", extentOf ⟨16, 21⟩), ("b", extentOf ⟨44, 52⟩)]) ∧
      ∃ t, tableOf keyedList.tokens
          (some (.schema (some (.table (some "t") none)) (keyedTrees.take 2))) = .ok (.table t) ∧
        ∀ c ∈ t.columns, c.extent = {} := by
  obtain ⟨-, htables⟩ := columns_at_elements keyedList
  have hread : ∀ tree ∈ keyedTrees, ∃ part, element "t" tree none = .ok part := by
    simp only [keyedTrees, List.forall_mem_cons]
    exact ⟨⟨_, rfl⟩, ⟨_, rfl⟩, ⟨_, rfl⟩, fun _ h => nomatch h⟩
  constructor
  · obtain ⟨hexists, hcolumns⟩ := htables "t" none keyedTrees
    obtain ⟨t, ht⟩ := hexists.mpr ⟨by decide, hread⟩
    exact ⟨t, ht, (hcolumns t ht).1 rfl⟩
  · obtain ⟨hexists, hcolumns⟩ := htables "t" none (keyedTrees.take 2)
    obtain ⟨t, ht⟩ := hexists.mpr
      ⟨by decide, fun tree htree => hread tree (List.mem_of_mem_take htree)⟩
    exact ⟨t, ht, (hcolumns t ht).2 (by decide)⟩

end SchemaTypes.Declaration
