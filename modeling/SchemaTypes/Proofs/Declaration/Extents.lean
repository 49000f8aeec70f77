import SchemaTypes.Declaration.Reading
import SchemaTypes.Model.Build
import SchemaTypes.Proofs.Declaration.TableElements
import SchemaTypes.Proofs.Sql.Spans

/-!
# `SchemaTypes.Proofs.Declaration.Extents`: where declarations and columns stand

The extent of a declaration is the span of its statement, and the extent
of a column is the span of its element, provided that the tokens show as
many elements as the tree has. `extents_ordered` puts together what
follows from `Sql.Span.Ordered` for tokens, statements and elements: the
declarations of a source stand in order inside it, and the columns of a
table, if they have extents at all, stand in order inside the table. The
text that is kept of a column is therefore never empty, and it is a piece
of the text of its own table.

The trees of the statements may be any: a tree decides which elements are
columns, but not where they stand. Leaving out malformed statements, or
elements that are constraints, leaves out spans and moves none.
-/

set_option autoImplicit false

namespace SchemaTypes

open Sql (Token Tree Span)

/-- The extent of a declaration. -/
def Declaration.extent : Declaration → Extent
  | .table t => t.extent
  | .enum e => e.extent
  | .unsupported _ extent => extent
  | .foreign _ => {}

/-- Where the columns of a table stand: none of them has an extent, or their
extents follow one another inside that of the table. -/
def Table.ColumnsInOrder (t : Table) : Prop :=
  (∀ c ∈ t.columns, c.extent = {}) ∨
    ∃ span spans, t.extent = Declaration.extentOf span ∧
      t.columns.map Column.extent = spans.map Declaration.extentOf ∧
      Span.Ordered span.start span.stop spans

/-- The text that is kept of a column is a piece of that of its table, and
not empty. -/
def Table.ColumnsInText (source : List Char) (t : Table) : Prop :=
  ∀ c ∈ t.columns, ∀ piece, ({ source } : Build.Settings).text c.extent = some piece →
    piece ≠ "" ∧ ∃ whole, ({ source } : Build.Settings).text t.extent = some whole ∧
      piece.toList <:+: whole.toList

namespace Declaration

/-! ## Extents of declarations -/

/-- An enum has the extent of its statement: `enum?` takes it from all of
the tokens. -/
theorem extent_of_enum? {tokens : List Token} {e : EnumType} (h : enum? tokens = some (.ok e)) :
    e.extent = extentOf (Sql.tokenSpan tokens) := by
  obtain ⟨parts, -, hparts⟩ := Option.map_eq_some_iff.mp h
  dsimp only at hparts
  split at hparts
  · cases hparts
  · split at hparts
    · cases hparts
    · obtain rfl := Except.ok.inj hparts
      rfl

/-- A declaration has the extent of its statement, which is the
`Sql.tokenSpan` of its tokens, be it an enum, a table or something that is
not supported. -/
theorem extent_of_ofStatement {tokens : List Token} (hne : tokens ≠ []) {tree : Option Tree}
    {d : Declaration} (h : ofStatement tokens tree = .ok d) :
    d.extent = extentOf (Sql.tokenSpan tokens) := by
  unfold ofStatement at h
  split at h
  -- An enum, a malformed enum, and a statement that is read by its tree.
  case h_1 e henum =>
    obtain rfl := Except.ok.inj h
    exact extent_of_enum? henum
  case h_2 => cases h
  case h_3 =>
    split at h
    case h_1 target _ =>
      rcases tableOf_cases tokens target with ⟨⟨what, hwhat⟩, -⟩ | ⟨name, schema, trees, -, -, heq⟩
      · rw [hwhat] at h
        cases h
      · rw [heq, statementExtent_eq_ok hne] at h
        obtain ⟨parts, -, h⟩ := Proofs.bind_eq_ok_iff.mp h
        obtain rfl := Except.ok.inj h
        rfl
    case h_2 =>
      rw [statementExtent_eq_ok hne] at h
      obtain rfl := Except.ok.inj h
      rfl

/-! ## Extents of columns -/

/-- A column has the extent of its element, or none if the element has no
span. A constraint has none, which is why `Element.column?` is asked. -/
theorem extent_of_element {table : String} {tree : Tree} {span : Option Span} {part : Element}
    (h : element table tree span = .ok part) {c : Column} (hc : part.column? = some c) :
    c.extent = (span.map extentOf).getD {} := by
  unfold element at h
  split at h
  case h_1 name type constraints =>
    obtain ⟨read, hread, rfl⟩ := Proofs.map_eq_ok_iff.mp h
    obtain rfl := Option.some.inj hc
    -- A column that is read has a type and a name, and the given span.
    unfold column at hread
    split at hread
    · split at hread
      · cases hread
      · obtain ⟨dataType, -, rfl⟩ := Proofs.map_eq_ok_iff.mp hread
        rfl
    · cases hread
  case h_2 =>
    obtain ⟨constraint, -, rfl⟩ := Proofs.map_eq_ok_iff.mp h
    cases hc

/-- Columns from elements with spans have those of the spans that are not
spans of constraints. They are a sublist, which is all that `Span.Ordered`
needs. -/
theorem extents_of_elements {table : String} {pairs : List (Tree × Option Span)}
    {parts : List Element}
    (h : List.Forall₂ (fun pair part => element table pair.1 pair.2 = .ok part) pairs parts)
    {spans : List Span} (hspans : pairs.map Prod.snd = spans.map some) :
    ∃ spans' : List Span, spans'.Sublist spans ∧
      (parts.filterMap Element.column?).map Column.extent = spans'.map extentOf := by
  induction h generalizing spans with
  | nil => exact ⟨[], List.nil_sublist _, rfl⟩
  | @cons pair part pairs parts hpart _ ih =>
    cases spans with
    | nil => cases hspans
    | cons span spans =>
      obtain ⟨hspan, hspans⟩ := List.cons.inj hspans
      obtain ⟨spans', hsub, hextents⟩ := ih hspans
      -- The span of a constraint is left out, and that of a column is kept.
      cases hcolumn : part.column? with
      | none =>
        refine ⟨spans', hsub.cons span, ?_⟩
        rw [List.filterMap_cons_none hcolumn, hextents]
      | some c =>
        have hc : c.extent = extentOf span := by
          rw [extent_of_element hpart hcolumn, hspan]
          rfl
        refine ⟨span :: spans', hsub.cons_cons span, ?_⟩
        rw [List.filterMap_cons_some hcolumn, List.map_cons, List.map_cons, hc, hextents]

/-- Columns from elements without spans have no extents. There are no spans
(`spansFor`) where the tokens show another number of elements than the
tree. -/
theorem extent_of_spanless {table : String} {pairs : List (Tree × Option Span)}
    {parts : List Element}
    (h : List.Forall₂ (fun pair part => element table pair.1 pair.2 = .ok part) pairs parts)
    (hspans : ∀ pair ∈ pairs, pair.2 = none) :
    ∀ c ∈ parts.filterMap Element.column?, c.extent = {} := by
  induction h with
  | nil => exact nofun
  | @cons pair part pairs parts hpart _ ih =>
    obtain ⟨hspan, hspans⟩ := List.forall_mem_cons.mp hspans
    cases hcolumn : part.column? with
    | none =>
      rw [List.filterMap_cons_none hcolumn]
      exact ih hspans
    | some c =>
      rw [List.filterMap_cons_some hcolumn, List.forall_mem_cons]
      refine ⟨?_, ih hspans⟩
      rw [extent_of_element hpart hcolumn, hspan]
      rfl

/-- The columns of a table have no extents, or those of some of the elements
of its statement, in order: `extent_of_spanless` or
`extents_of_elements`. -/
theorem extents_of_readElements {tokens : List Token} {table : String} {trees : List Tree}
    {parts : List Element} (h : readElements tokens table trees = .ok parts) :
    (∀ c ∈ parts.filterMap Element.column?, c.extent = {}) ∨
      ∃ spans : List Span, spans.Sublist (Sql.elementSpans tokens) ∧
        (parts.filterMap Element.column?).map Column.extent = spans.map extentOf := by
  have hparts := Proofs.mapM_eq_ok_iff.mp h
  have hsnd : (trees.zip (spansFor tokens trees.length)).map Prod.snd =
      spansFor tokens trees.length :=
    List.map_snd_zip (Nat.le_of_eq (length_spansFor tokens trees.length))
  -- The spans are used only if there is one for each element.
  by_cases hcount : (Sql.elementSpans tokens).length = trees.length
  · have hspans : spansFor tokens trees.length = (Sql.elementSpans tokens).map some :=
      if_pos hcount
    exact .inr (extents_of_elements hparts (hsnd.trans hspans))
  · have hspans : spansFor tokens trees.length = List.replicate trees.length none :=
      if_neg hcount
    refine .inl (extent_of_spanless hparts fun pair hpair => ?_)
    have hmem := List.mem_map_of_mem (f := Prod.snd) hpair
    rw [hsnd, hspans] at hmem
    exact List.eq_of_mem_replicate hmem

/-- The columns of a table stand in order inside it, since its elements do
by `Sql.ordered_elementSpans`. -/
theorem columnsInOrder_of_ofStatement {tokens : List Token} (hne : tokens ≠ [])
    {lo hi : Nat} (htokens : Span.Ordered lo hi (tokens.map Token.span)) {tree : Option Tree}
    {t : Table} (h : ofStatement tokens tree = .ok (.table t)) : t.ColumnsInOrder := by
  obtain ⟨parts, hparts, hcolumns, -⟩ := readElements_of_ofStatement h
  have hextent : t.extent = extentOf (Sql.tokenSpan tokens) := extent_of_ofStatement hne h
  obtain ⟨-, -, hordered⟩ := Sql.ordered_tokenSpan hne htokens
  unfold Table.ColumnsInOrder
  rw [hcolumns]
  rcases extents_of_readElements hparts with hnone | ⟨spans, hsub, hextents⟩
  · exact .inl hnone
  · exact .inr ⟨_, spans, hextent, hextents, (Sql.ordered_elementSpans hordered).sublist hsub⟩

end Declaration

/-! ## Texts of columns -/

/-- The text of a span inside the source is what stands between its ends,
and nothing is cut off by `Build.Settings.text`. -/
theorem text_extentOf {source : List Char} {span : Span} (hforward : span.start ≤ span.stop)
    (hstop : span.stop ≤ source.length) :
    ({ source } : Build.Settings).text (Declaration.extentOf span) =
      some (String.ofList ((source.take span.stop).drop span.start)) := by
  have hbound : ∀ n : Nat, n ≤ source.length → Text.bound source.length n = n := by
    intro n hn
    unfold Text.bound
    rw [if_neg (by omega), Int.toNat_natCast, Nat.min_eq_left hn]
  show some (String.ofList (Text.slice source span.start span.stop)) = _
  rw [Text.slice, hbound _ hstop, hbound _ (Nat.le_trans hforward hstop)]

/-- A piece of a piece of a text, by the positions in the text. The text of
a column is a piece of that of its table in this way
(`Table.ColumnsInOrder.inText`). -/
theorem isInfix_of_le (source : List Char) {lo start stop hi : Nat} (hlo : lo ≤ start)
    (hforward : start ≤ stop) (hhi : stop ≤ hi) :
    (source.take stop).drop start <:+: (source.take hi).drop lo := by
  have hinner : (source.take stop).drop start =
      (((source.take hi).drop lo).take (stop - lo)).drop (start - lo) := by
    rw [List.take_drop, List.drop_drop, List.take_take]
    congr 2 <;> omega
  rw [hinner]
  exact (List.drop_suffix _ _).isInfix.trans (List.take_prefix _ _).isInfix

/-- A span can be told from its extent, so statements about extents can be
turned into statements about spans (`Declaration.extentOf`). -/
theorem Declaration.extentOf_injective : Function.Injective Declaration.extentOf := by
  rintro ⟨start, stop⟩ ⟨start', stop'⟩ h
  simp only [Declaration.extentOf, Extent.mk.injEq, Option.some.injEq] at h
  rw [Span.mk.injEq]
  omega

/-- Columns in order have texts inside that of their table, if the table
stands inside the source. `text_extentOf` gives both texts, and
`isInfix_of_le` compares them. -/
theorem Table.ColumnsInOrder.inText {t : Table} (h : t.ColumnsInOrder) {source : List Char}
    {span : Span} (hspan : t.extent = Declaration.extentOf span)
    (hstop : span.stop ≤ source.length) : t.ColumnsInText source := by
  intro c hc piece hpiece
  rcases h with hnone | ⟨span', spans, hspan', hextents, hordered⟩
  · rw [hnone c hc] at hpiece
    cases hpiece
  · obtain rfl : span' = span := Declaration.extentOf_injective (hspan'.symm.trans hspan)
    have hmem : c.extent ∈ spans.map Declaration.extentOf :=
      hextents ▸ List.mem_map_of_mem (f := Column.extent) hc
    obtain ⟨own, hown, heq⟩ := List.mem_map.mp hmem
    obtain ⟨hstart, hforward, hwithin⟩ := hordered.mem hown
    have hinside : own.stop ≤ source.length := Nat.le_trans hwithin hstop
    rw [← heq, text_extentOf (Nat.le_of_lt hforward) hinside] at hpiece
    obtain rfl := Option.some.inj hpiece
    have hwhole := text_extentOf hordered.le hstop
    rw [← hspan] at hwhole
    refine ⟨?_, _, hwhole, ?_⟩
    · -- Its length is the distance between its ends.
      intro hempty
      have hlength := congrArg String.length hempty
      simp only [String.length_ofList, List.length_drop, List.length_take,
        String.length_empty] at hlength
      omega
    · simpa using isInfix_of_le source hstart (Nat.le_of_lt hforward) hwithin

namespace Reading

/-- A declaration of `ofStatements` comes from one of the statements, and is
what that statement gives by itself. -/
theorem exists_of_mem_ofStatements {statements : List Statement} {d : Declaration}
    (h : d ∈ (ofStatements statements).declarations) :
    ∃ s ∈ statements, Declaration.ofStatement s.tokens s.tree = .ok d := by
  induction statements with
  | nil => nomatch h
  | cons s statements ih =>
    have hrest : d ∈ (ofStatements statements).declarations →
        ∃ s' ∈ s :: statements, Declaration.ofStatement s'.tokens s'.tree = .ok d := by
      intro hd
      obtain ⟨s', hs', hread⟩ := ih hd
      exact ⟨s', List.mem_cons_of_mem _ hs', hread⟩
    -- The first statement declares something, is malformed, or ends the reading.
    unfold ofStatements at h
    split at h
    case h_1 declaration hread =>
      rcases List.mem_cons.mp h with rfl | h
      · exact ⟨s, List.mem_cons_self, hread⟩
      · exact hrest h
    case h_2 => exact hrest h
    case h_3 => nomatch h

/-- The declarations have the extents of some of the statements, in order,
by `extent_of_ofStatement` for each. The other statements are malformed or
stand behind the one that ended the reading. -/
theorem extents_of_ofStatements {statements : List Statement}
    (hne : ∀ s ∈ statements, s.tokens ≠ []) :
    ∃ spans : List Span,
      spans.Sublist (statements.map fun s => Sql.tokenSpan s.tokens) ∧
      (ofStatements statements).declarations.map Declaration.extent =
        spans.map Declaration.extentOf := by
  induction statements with
  | nil => exact ⟨[], List.nil_sublist _, rfl⟩
  | cons s statements ih =>
    obtain ⟨hs, hrest⟩ := List.forall_mem_cons.mp hne
    obtain ⟨spans, hsub, hextents⟩ := ih hrest
    unfold ofStatements
    split
    case h_1 declaration hread =>
      refine ⟨Sql.tokenSpan s.tokens :: spans, hsub.cons_cons _, ?_⟩
      simp only [List.map_cons, hextents, Declaration.extent_of_ofStatement hs hread]
    case h_2 => exact ⟨spans, hsub.cons _, hextents⟩
    case h_3 => exact ⟨[], List.nil_sublist _, rfl⟩

/-- **Where declarations stand.** Take tokens that stand in order inside a
source, cut into statements with any trees. The extents of the
declarations follow one another inside the source. The columns of each
table have no extents, or their extents follow one another inside that of
the table, and then the text kept of a column is a piece of the text of
its table and not empty. -/
theorem extents_ordered (source : List Char) {tokens : List Token}
    (htokens : Sql.InOrder source.length tokens) {statements : List Statement}
    (hstatements : statements.map Statement.tokens = Sql.statements tokens) :
    (∃ spans, (ofStatements statements).declarations.map Declaration.extent =
        spans.map Declaration.extentOf ∧ Span.Ordered 0 source.length spans) ∧
      ∀ t, .table t ∈ (ofStatements statements).declarations →
        t.ColumnsInOrder ∧ t.ColumnsInText source := by
  have hordered := htokens.ordered
  -- Each statement has tokens of the source, in their order.
  have hchunk : ∀ s ∈ statements, s.tokens ≠ [] ∧ s.tokens.Sublist tokens := by
    intro s hs
    refine Sql.sublist_of_mem_statements ?_
    rw [← hstatements]
    exact List.mem_map_of_mem hs
  -- The statements stand in order, and the declarations are some of them.
  have hspans : Span.Ordered 0 source.length
      (statements.map fun s => Sql.tokenSpan s.tokens) := by
    have hmap : (statements.map fun s => Sql.tokenSpan s.tokens) =
        (Sql.statements tokens).map Sql.tokenSpan := by
      rw [← hstatements, List.map_map]
      rfl
    rw [hmap]
    exact Sql.ordered_statements hordered
  constructor
  · obtain ⟨spans, hsub, hextents⟩ := extents_of_ofStatements fun s hs => (hchunk s hs).1
    exact ⟨spans, hextents, hspans.sublist hsub⟩
  · intro t ht
    -- A table stands where its statement does, and so do its columns.
    obtain ⟨s, hs, hread⟩ := exists_of_mem_ofStatements ht
    obtain ⟨hne, hsub⟩ := hchunk s hs
    have hown := hordered.sublist (hsub.map Token.span)
    have hcolumns := Declaration.columnsInOrder_of_ofStatement hne hown hread
    refine ⟨hcolumns, hcolumns.inText (Declaration.extent_of_ofStatement hne hread) ?_⟩
    exact (Sql.ordered_tokenSpan hne hown).2.1

/-- The tokens of `create table t (a int, b int); drop x`. -/
def pairTokens : List Token :=
  [⟨.word, "create", 0, 5⟩, ⟨.word, "table", 7, 11⟩, ⟨.word, "t", 13, 13⟩,
   ⟨.openParen, "(", 15, 15⟩, ⟨.word, "a", 16, 16⟩, ⟨.word, "int", 18, 20⟩,
   ⟨.comma, ",", 21, 21⟩, ⟨.word, "b", 23, 23⟩, ⟨.word, "int", 25, 27⟩,
   ⟨.closeParen, ")", 28, 28⟩, ⟨.semicolon, ";", 29, 29⟩, ⟨.word, "drop", 31, 34⟩,
   ⟨.word, "x", 36, 36⟩]

/-- A table with the columns `a` and `b`. -/
def pairTree : Tree :=
  .create (some "TABLE") (some (.schema (some (.table (some "t") none))
    [.columnDef (some "a") (some (.dataType "INT" [])) [],
     .columnDef (some "b") (some (.dataType "INT" [])) []]))

/-- The statements of `pairTokens`, of which the second has no tree. -/
def pairStatements : List Statement :=
  [⟨pairTokens.take 10, some pairTree⟩, ⟨pairTokens.drop 11, none⟩]

/-- The columns of the table stand in order inside it, in front of the
second statement. -/
theorem extents_ordered_pair :
    (∃ spans, (ofStatements pairStatements).declarations.map Declaration.extent =
        spans.map Declaration.extentOf ∧ Span.Ordered 0 37 spans) ∧
      ∃ t, .table t ∈ (ofStatements pairStatements).declarations ∧
        t.columns.map Column.extent =
          [Declaration.extentOf ⟨16, 21⟩, Declaration.extentOf ⟨23, 28⟩] ∧
        t.ColumnsInOrder ∧
          t.ColumnsInText "create table t (a int, b int); drop x".toList := by
  have htokens : Sql.InOrder "create table t (a int, b int); drop x".toList.length pairTokens :=
    ⟨by decide, by decide, by decide⟩
  obtain ⟨hspans, htables⟩ := extents_ordered "create table t (a int, b int); drop x".toList
    htokens (by decide : pairStatements.map Statement.tokens = Sql.statements pairTokens)
  refine ⟨hspans, ?_⟩
  have hfirst : ∃ t, (ofStatements pairStatements).declarations.head? = some (.table t) ∧
      t.columns.map Column.extent =
        [Declaration.extentOf ⟨16, 21⟩, Declaration.extentOf ⟨23, 28⟩] := ⟨_, rfl, rfl⟩
  obtain ⟨t, hhead, hcolumns⟩ := hfirst
  have ht := List.mem_of_head? hhead
  exact ⟨t, ht, hcolumns, htables t ht⟩

end Reading

end SchemaTypes
