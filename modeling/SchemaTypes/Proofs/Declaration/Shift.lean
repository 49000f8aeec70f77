import SchemaTypes.Declaration.Reading
import SchemaTypes.Proofs.Sql.Shift
import SchemaTypes.Proofs.Sql.Spans
import SchemaTypes.Proofs.Traversal

/-!
# `SchemaTypes.Proofs.Declaration.Shift`: declarations further on in a source

The declaration of a statement moves with the statement's tokens:
`ofStatement_shift`. Everything else about it, and whether there is one at
all, stays as it is. The proof goes through the parts of a declaration
that have a place of their own: the extent of the statement, the columns
of a table, and nothing else.

The readings of two lists of statements are put together by
`Reading.append`, which keeps the first one alone if it ended early. With
it, `Reading.ofStatements_append_shift` says what two pieces of a source
come to when they meet at a semicolon, and `Reading.ofStatements_append_ne`
that they come to something else when they do not.
-/

set_option autoImplicit false

namespace SchemaTypes

open Sql (Token Tree Span Dialect)

/-! ## Declarations further on -/

/-- An extent `n` characters further on. -/
def Extent.shift (n : Nat) (e : Extent) : Extent :=
  ⟨e.start.map (· + n), e.stop.map (· + n)⟩

/-- A column `n` characters further on. -/
def Column.shift (n : Nat) (c : Column) : Column :=
  { c with extent := c.extent.shift n }

/-- A table `n` characters further on, with its columns. -/
def Table.shift (n : Nat) (t : Table) : Table :=
  { t with columns := t.columns.map (Column.shift n), extent := t.extent.shift n }

/-- An enum `n` characters further on. -/
def EnumType.shift (n : Nat) (e : EnumType) : EnumType :=
  { e with extent := e.extent.shift n }

/-- A declaration `n` characters further on. -/
def Declaration.shift (n : Nat) : Declaration → Declaration
  | .table t => .table (t.shift n)
  | .enum e => .enum (e.shift n)
  | .unsupported kind extent => .unsupported kind (extent.shift n)
  | .foreign kind => .foreign kind

namespace Declaration

/-- An element of a table `n` characters further on. -/
def Element.shift (n : Nat) : Element → Element
  | .column c => .column (c.shift n)
  | .constraint c => .constraint c

section

variable (n : Nat)

/-- An extent moves with the span that it is made from: `extentOf` commutes
with a shift. -/
theorem extentOf_shift (span : Span) : extentOf (span.shift n) = (extentOf span).shift n := by
  simp [extentOf, Span.shift, Extent.shift]

/-- The extent of a statement moves with its tokens, since `statementExtent`
spans them all. -/
theorem statementExtent_shift (tokens : List Token) :
    statementExtent (tokens.map (Token.shift n)) =
      (statementExtent tokens).map (Extent.shift n) := by
  cases tokens with
  | nil => rfl
  | cons token rest =>
    have hspan := Sql.tokenSpan_shift n (List.cons_ne_nil token rest)
    show Except.ok (extentOf (Sql.tokenSpan ((token :: rest).map (Token.shift n)))) =
      .ok ((extentOf (Sql.tokenSpan (token :: rest))).shift n)
    rw [hspan, extentOf_shift]

/-! ### Enums -/

/-- Where a statement is cut into the parts of an enum is told by the texts
of its tokens, which `Token.shift` keeps. -/
theorem enumParts?_shift (tokens : List Token) :
    enumParts? (tokens.map (Token.shift n)) =
      (enumParts? tokens).map (Prod.map (List.map (Token.shift n)) (List.map (Token.shift n))) := by
  match tokens with
  | [] => rfl
  | [_] => rfl
  | first :: second :: rest =>
    -- The name ends at the same token, since only texts are compared.
    have hname : (rest.map (Token.shift n)).takeWhile
          (fun token => Text.upper token.text != "AS") =
        (rest.takeWhile fun token => Text.upper token.text != "AS").map (Token.shift n) :=
      List.takeWhile_map
    simp only [List.map_cons, enumParts?, hname, List.length_map, Token.shift_text,
      ← List.map_drop]
    generalize rest.drop _ = body
    match body with
    | [] => rfl
    | [_] => rfl
    | _ :: third :: body =>
      simp only [List.map_cons, Token.shift_text]
      rw [apply_ite (Option.map _)]
      rfl

/-- Whether tokens are in parentheses is told by their kinds, which
`Token.shift` keeps. -/
theorem inParens?_shift (tokens : List Token) :
    inParens? (tokens.map (Token.shift n)) =
      (inParens? tokens).map (List.map (Token.shift n)) := by
  cases tokens with
  | nil => rfl
  | cons first rest =>
    simp only [List.map_cons, inParens?, List.getLast?_map]
    cases rest.getLast? with
    | none => rfl
    | some last =>
      simp only [Option.map_some, Token.shift_kind, ← List.map_dropLast]
      split <;> rfl

/-- The texts of the tokens of some kinds do not move. With this `nameParts`
and `stringTexts` give the same names and values. -/
theorem textsOf_shift (keep : Sql.Kind → Bool) (tokens : List Token) :
    ((tokens.map (Token.shift n)).filter fun token => keep token.kind).map Token.text =
      (tokens.filter fun token => keep token.kind).map Token.text := by
  rw [List.filter_map, List.map_map]
  rfl

/-- The enum that a statement declares moves with its tokens, and what it
lacks is the same. `enumParts?_shift`, `inParens?_shift` and `textsOf_shift`
follow its parts. -/
theorem enum?_shift (tokens : List Token) :
    enum? (tokens.map (Token.shift n)) =
      (enum? tokens).map fun outcome => outcome.map (EnumType.shift n) := by
  rw [enum?, enum?, enumParts?_shift]
  cases hparts : enumParts? tokens with
  | none => rfl
  | some parts =>
    have hne : tokens ≠ [] := by
      rintro rfl
      cases hparts
    -- Names and values are texts, and only the extent has moved.
    have hnames := textsOf_shift n (· != .dot) parts.1
    simp only [Option.map_some, Prod.map_fst, Prod.map_snd, inParens?_shift, hnames,
      Sql.tokenSpan_shift n hne, extentOf_shift]
    cases ((parts.1.filter fun token => token.kind != .dot).map Token.text).reverse with
    | nil => rfl
    | cons name qualifiers =>
      cases inParens? parts.2 with
      | none => rfl
      | some body =>
        have hvalues := textsOf_shift n (· == .text) body
        simp only [Option.map_some, hvalues]
        rfl

/-! ### Tables -/

/-- A column moves with the span of its element (`extentOf_shift`), and is
refused alike. -/
theorem column_shift (table name : String) (type : Option Tree) (constraints : List Tree)
    (span : Option Span) :
    column table name type constraints (span.map (Span.shift n)) =
      (column table name type constraints span).map (Column.shift n) := by
  have hextent : ((span.map (Span.shift n)).map extentOf).getD {} =
      ((span.map extentOf).getD {}).shift n := by
    cases span with
    | none => rfl
    | some span => exact extentOf_shift n span
  cases type with
  | none => rfl
  | some type =>
    simp only [column, hextent]
    split
    · rfl
    · cases dataType type <;> rfl

/-- An element moves with its span. Only columns have a place, so this is
`column_shift`. -/
theorem element_shift (table : String) (tree : Tree) (span : Option Span) :
    element table tree (span.map (Span.shift n)) =
      (element table tree span).map (Element.shift n) := by
  unfold element
  split
  · rename_i name type constraints
    rw [column_shift]
    cases column table (name.getD "") type constraints span <;> rfl
  · cases constraintOf tree <;> rfl

/-- The spans for the elements of a table move with the tokens, as
`Sql.elementSpans_shift` says, and their number is the same. -/
theorem spansFor_shift (tokens : List Token) (count : Nat) :
    spansFor (tokens.map (Token.shift n)) count =
      (spansFor tokens count).map (Option.map (Span.shift n)) := by
  simp only [spansFor, Sql.elementSpans_shift, List.length_map]
  split
  · rw [List.map_map, List.map_map]
    rfl
  · rw [List.map_replicate, Option.map_none]

/-- The table that a statement creates moves with the tokens, its columns
included, by `element_shift` for each element. -/
theorem tableOf_shift (tokens : List Token) (target : Option Tree) :
    tableOf (tokens.map (Token.shift n)) target =
      (tableOf tokens target).map (Declaration.shift n) := by
  -- Only the elements and the extent of a table depend on the tokens.
  have hparts : ∀ (name : String) (trees : List Tree),
      (trees.zip (spansFor (tokens.map (Token.shift n)) trees.length)).mapM
          (fun pair => element name pair.1 pair.2) =
        ((trees.zip (spansFor tokens trees.length)).mapM
          fun pair => element name pair.1 pair.2).map (List.map (Element.shift n)) := by
    intro name trees
    rw [spansFor_shift, List.zip_map_right]
    exact Proofs.mapM_map_eq_map (fun pair => element_shift n name pair.1 pair.2) _
  have hcolumns : ∀ parts : List Element, (parts.map (Element.shift n)).filterMap
      Element.column? = (parts.filterMap Element.column?).map (Column.shift n) := by
    intro parts
    rw [List.filterMap_map, List.map_filterMap]
    congr 1
    funext part
    cases part <;> rfl
  have hconstraints : ∀ parts : List Element, (parts.map (Element.shift n)).filterMap
      Element.constraint? = parts.filterMap Element.constraint? := by
    intro parts
    rw [List.filterMap_map]
    congr 1
    funext part
    cases part <;> rfl
  simp only [tableOf, hparts, statementExtent_shift]
  split
  · rename_i name schema _
    split
    · rfl
    · split
      · rfl
      · rename_i trees _
        cases (trees.zip (spansFor tokens trees.length)).mapM
            fun pair => element name pair.1 pair.2 with
        | error obstacle => rfl
        | ok parts =>
          cases statementExtent tokens with
          | error obstacle => rfl
          | ok extent =>
            show Except.ok _ = Except.ok _
            rw [hcolumns, hconstraints]
            rfl
  · rfl

/-- The declaration of a statement moves with the tokens. The tree has no
places in it and stays, so the cases are those of `enum?_shift` and
`tableOf_shift`. -/
theorem ofStatement_shift (tokens : List Token) (tree : Option Tree) :
    ofStatement (tokens.map (Token.shift n)) tree =
      (ofStatement tokens tree).map (Declaration.shift n) := by
  rw [ofStatement, ofStatement, enum?_shift]
  cases enum? tokens with
  | some outcome => cases outcome <;> rfl
  | none =>
    simp only [Option.map_none]
    cases tableTarget? tree with
    | some target => exact tableOf_shift n tokens target
    | none =>
      have hkind : statementKind (tokens.map (Token.shift n)) = statementKind tokens := by
        rw [statementKind, ← List.map_take, List.map_map]
        rfl
      simp only [statementExtent_shift, hkind]
      cases statementExtent tokens <;> rfl

end

end Declaration

/-! ## Readings -/

/-- A statement `n` characters further on. -/
def Statement.shift (n : Nat) (s : Statement) : Statement :=
  { s with tokens := s.tokens.map (Token.shift n) }

/-- A skipped statement `n` characters further on. -/
def Skipped.shift (n : Nat) (s : Skipped) : Skipped :=
  { s with start := s.start + n }

namespace Reading

/-- What a source comes to `n` characters further on. -/
def shift (n : Nat) (r : Reading) : Reading :=
  { r with
    declarations := r.declarations.map (Declaration.shift n)
    skipped := r.skipped.map (Skipped.shift n) }

/-- What two pieces of a source come to, one after the other. Nothing
follows a reading that ended early. -/
def append (r r' : Reading) : Reading :=
  if r.complete then
    ⟨r.declarations ++ r'.declarations, r.skipped ++ r'.skipped, r'.complete⟩
  else r

/-- Statements are read one after the other, so two lists of them are read
as one (`Reading.append`). If the first ends the reading, the second is not
looked at. -/
theorem ofStatements_append (ss ss' : List Statement) :
    ofStatements (ss ++ ss') = (ofStatements ss).append (ofStatements ss') := by
  induction ss with
  | nil => rfl
  | cons s ss ih =>
    simp only [List.cons_append, ofStatements, ih]
    -- The first statement adds to a reading in front, so it does not matter what follows.
    split
    · simp only [append]
      split <;> simp [*]
    · simp only [append]
      split <;> simp [*]
    · rfl

/-- Statements that stand further on come to the same, further on. By
induction with `ofStatement_shift` for each of them. -/
theorem ofStatements_shift (n : Nat) {ss : List Statement} (hne : ∀ s ∈ ss, s.tokens ≠ []) :
    ofStatements (ss.map (Statement.shift n)) = (ofStatements ss).shift n := by
  induction ss with
  | nil => rfl
  | cons s ss ih =>
    obtain ⟨hs, hss⟩ := List.forall_mem_cons.mp hne
    have hstart : (s.shift n).start = s.start + n :=
      congrArg Span.start (Sql.tokenSpan_shift n hs)
    have hread : Declaration.ofStatement (s.shift n).tokens (s.shift n).tree =
        (Declaration.ofStatement s.tokens s.tree).map (Declaration.shift n) :=
      Declaration.ofStatement_shift n s.tokens s.tree
    simp only [List.map_cons, ofStatements, hread, hstart, ih hss]
    cases Declaration.ofStatement s.tokens s.tree with
    | ok declaration => rfl
    | error obstacle => cases obstacle <;> rfl

/-- The statements of a source, with their trees, move with its tokens. The
trees stay, as `Sql.Grammar.statement_shift` says. -/
theorem statements_shift (n : Nat) (d : Dialect) (tokens : List Token) :
    statements d (tokens.map (Token.shift n)) =
      (statements d tokens).map (Statement.shift n) := by
  simp only [statements, Sql.statements_shift, List.map_map, Function.comp_def,
    Sql.Grammar.statement_shift]
  rfl

/-- Two pieces of a source that meet at a semicolon are read one after the
other. The second one stands behind the first and is moved by its length.
This puts `Sql.statements_append` and `ofStatements_append` together. -/
theorem ofStatements_append_shift (n : Nat) (d : Dialect) {tokens tokens' : List Token}
    (hparted : Sql.Parted tokens tokens') :
    ofStatements (statements d (tokens ++ tokens'.map (Token.shift n))) =
      (ofStatements (statements d tokens)).append
        ((ofStatements (statements d tokens')).shift n) := by
  have hne : ∀ s ∈ statements d tokens', s.tokens ≠ [] := by
    intro s hs
    obtain ⟨chunk, hchunk, rfl⟩ := List.mem_map.mp hs
    exact (Sql.sublist_of_mem_statements hchunk).1
  have hstatements : statements d (tokens ++ tokens'.map (Token.shift n)) =
      statements d tokens ++ (statements d tokens').map (Statement.shift n) := by
    rw [← statements_shift]
    simp only [statements, Sql.statements_append ((Sql.Parted.shift n).mpr hparted),
      List.map_append]
  rw [hstatements, ofStatements_append, ofStatements_shift n hne]

/-- The number of statements that a reading accounts for. -/
def size (r : Reading) : Nat :=
  r.declarations.length + r.skipped.length

/-- A reading that did not end early accounts in its `size` for each
statement, by a declaration or by a report. -/
theorem size_ofStatements {ss : List Statement} (h : (ofStatements ss).complete = true) :
    (ofStatements ss).size = ss.length := by
  induction ss with
  | nil => rfl
  | cons s ss ih =>
    simp only [ofStatements] at h ⊢
    split at h
    · have hrest := ih h
      simp only [size, List.length_cons] at hrest ⊢
      omega
    · have hrest := ih h
      simp only [size, List.length_cons] at hrest ⊢
      omega
    · cases h

/-- Two pieces of a source that do not meet at a semicolon have a statement
in common, so they are not read one after the other: by `size_ofStatements`
the two readings account for different numbers of statements. -/
theorem ofStatements_append_ne (n : Nat) (d : Dialect) {tokens tokens' : List Token}
    (hparted : ¬Sql.Parted tokens tokens')
    (h : (ofStatements (statements d tokens)).complete = true)
    (h' : (ofStatements (statements d tokens')).complete = true)
    (hboth : (ofStatements
      (statements d (tokens ++ tokens'.map (Token.shift n)))).complete = true) :
    (ofStatements (statements d (tokens ++ tokens'.map (Token.shift n)))).size ≠
      ((ofStatements (statements d tokens)).append
        ((ofStatements (statements d tokens')).shift n)).size := by
  have hsize : ((ofStatements (statements d tokens)).append
      ((ofStatements (statements d tokens')).shift n)).size =
        (statements d tokens).length + (statements d tokens').length := by
    rw [← size_ofStatements h, ← size_ofStatements h']
    simp only [append, h, if_true, size, shift, List.length_append, List.length_map]
    omega
  have hcount := Sql.length_statements_append_of_not_parted
    (mt (Sql.Parted.shift n).mp hparted)
  rw [size_ofStatements hboth, hsize]
  simp only [statements, List.length_map]
  rw [Sql.statements_shift, List.length_map] at hcount
  omega

end Reading

end SchemaTypes
