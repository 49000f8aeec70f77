import SchemaTypes.Declaration.OfTree
import SchemaTypes.Proofs.Traversal

/-!
# `SchemaTypes.Proofs.Declaration.TableElements`: what the elements of a table say

The tree of a table statement lists column definitions and table
constraints. This module says of such a list, without the functions that
read it, which columns it defines and what it states of each of them:
whether nulls are excluded, whether a value is supplied, and whether the
column is part of the primary key. These are the words in which the types
of a table are specified.

`forall₂_columns` shows that a table that is read has one column for each
column definition, in order and with just these properties, and
`contains_primaryKeys` that its key columns are those that its elements
list.
-/

set_option autoImplicit false

namespace SchemaTypes.Declaration

open Sql (Token Tree Span)

/-- A column definition of a table. -/
structure ColumnDef where
  name : String
  type : Option Tree
  constraints : List Tree

/-- The column that an element of a table defines. -/
def columnDef? : Tree → Option ColumnDef
  | .columnDef name type constraints => some ⟨name.getD "", type, constraints⟩
  | _ => none

/-- The elements of the table that a statement creates. -/
def tableElements : Option Tree → List Tree
  | some (.create _ (some (.schema _ elements))) => elements
  | _ => []

/-- What a constraint says of nulls, wrapped or bare: whether they are
allowed. -/
def allowsNull? : Tree → Option Bool
  | .notNull allowNull => some allowNull
  | .columnConstraint (some (.notNull allowNull)) => some allowNull
  | _ => none

/-- Whether a constraint gives a default or an identity. -/
def givesValue : Tree → Bool
  | .default | .identity => true
  | .columnConstraint (some .default) | .columnConstraint (some .identity) => true
  | _ => false

/-- Whether a constraint of a column makes it the primary key. -/
def isInlineKey : Tree → Bool
  | .primaryKeyColumn => true
  | .columnConstraint (some .primaryKeyColumn) => true
  | _ => false

/-- Whether a type is one whose values are counted up. An array of such a
type is not. -/
def isSerial (type : Tree) : Bool :=
  match dataType type with
  | .ok (.named name) => name == "serial" || name == "smallserial" || name == "bigserial"
  | _ => false

/-- Whether a column excludes nulls: the last constraint that speaks of
nulls does. -/
def ColumnDef.notNull (c : ColumnDef) : Bool :=
  (c.constraints.filterMap allowsNull?).getLast? == some false

/-- Whether values of a column can be left to the database. -/
def ColumnDef.hasDefault (c : ColumnDef) : Bool :=
  c.constraints.any givesValue || c.type.any isSerial

/-- Whether a table constraint is of a kind that is recognised. -/
def isRecognised : Tree → Bool
  | .primaryKey _ | .foreignKey _ | .unique | .check => true
  | _ => false

/-- The keys of the primary-key constraint that an element states. A named
constraint is what the first of its parts of a recognised kind is. -/
def primaryKey? : Tree → Option (List Tree)
  | .primaryKey keys => some keys
  | .constraint _ parts =>
    match parts.find? isRecognised with
    | some (.primaryKey keys) => some keys
    | _ => none
  | _ => none

/-- A key without its direction. -/
def withoutDirection : Tree → Option Tree
  | .ordered target => target
  | tree => some tree

/-- Whether an element states a primary key that a column is part of. -/
def listsKey (name : String) (element : Tree) : Bool :=
  ((primaryKey? element).getD []).any fun key =>
    (withoutDirection key).bind Tree.name? == some name

/-- Whether a column is part of the primary key of a table. -/
def ColumnDef.isKey (elements : List Tree) (c : ColumnDef) : Bool :=
  c.constraints.any isInlineKey || elements.any (listsKey c.name)

/-! ## Single constraints -/

/-- What a constraint does to the answer about nulls: if it speaks of them
(`allowsNull?`) its word counts, else the answer before it stands. -/
theorem excludesNull_eq (before : Bool) (constraint : Tree) :
    excludesNull before constraint = ((allowsNull? constraint).map not).getD before := by
  cases constraint with
  | columnConstraint kind =>
    cases kind with
    | none => rfl
    | some kind => cases kind <;> rfl
  | _ => rfl

/-- A constraint makes its column the key exactly if `isInlineKey` says so:
it is a key behind a column, wrapped or not. -/
theorem isPrimary_eq (constraint : Tree) : isPrimary constraint = isInlineKey constraint := by
  cases constraint with
  | columnConstraint kind =>
    cases kind with
    | none => rfl
    | some kind => cases kind <;> rfl
  | _ => rfl

/-- A constraint supplies a value exactly if `givesValue` says so, wrapped
or not. -/
theorem suppliesValue_eq (constraint : Tree) :
    suppliesValue constraint = givesValue constraint := by
  cases constraint with
  | columnConstraint kind =>
    cases kind with
    | none => rfl
    | some kind => cases kind <;> rfl
  | _ => rfl

/-- Of the constraints that speak of nulls the last one counts, and without
any the answer is the one from before. By induction, with `excludesNull_eq`
for each constraint. -/
theorem foldl_excludesNull (constraints : List Tree) (before : Bool) :
    constraints.foldl excludesNull before =
      ((constraints.filterMap allowsNull?).getLast?.map not).getD before := by
  induction constraints generalizing before with
  | nil => rfl
  | cons constraint constraints ih =>
    rw [List.foldl_cons, ih, excludesNull_eq]
    cases hnull : allowsNull? constraint with
    | none => rw [List.filterMap_cons_none hnull]; rfl
    | some allowed =>
      -- This constraint counts only if no later one speaks of nulls.
      rw [List.filterMap_cons_some hnull, List.getLast?_cons]
      cases (constraints.filterMap allowsNull?).getLast? <;> rfl

/-- Every array type is called `array`, whatever its elements are. -/
theorem name_of_dataType_eq_array {type : Tree} {name : String} {inner : DataType}
    (h : dataType type = .ok (.array name inner)) : name = "array" := by
  unfold dataType at h
  split at h
  · split at h
    · obtain ⟨d, -, hd⟩ := Proofs.map_eq_ok_iff.mp h
      exact (DataType.array.inj hd).1.symm
    · cases h
  · cases h
  · cases h
  · cases h
  · obtain ⟨text, -, hd⟩ := Proofs.map_eq_ok_iff.mp h
    cases hd

/-- The name of a type is that of a serial type only if the type is one: an
array has a name of its own, by `name_of_dataType_eq_array`. -/
theorem contains_serialTypes {type : Tree} {d : DataType} (h : dataType type = .ok d) :
    serialTypes.contains d.name = isSerial type := by
  unfold isSerial
  rw [h]
  cases d with
  | named name =>
    show serialTypes.contains name = _
    rw [serialTypes, List.contains_cons, List.contains_cons, List.contains_cons,
      List.contains_nil, Bool.or_false]
    exact (Bool.or_assoc _ _ _).symm
  | array name inner =>
    rw [name_of_dataType_eq_array h]
    rfl

/-! ## Columns -/

/-- What a column that is read has in common with its definition. -/
structure ColumnDef.Reads (c : ColumnDef) (column : Column) : Prop where
  name : column.name = c.name
  name_ne : c.name ≠ ""
  notNull : column.notNull = c.notNull
  primary : column.primary = c.constraints.any isInlineKey
  hasDefault : column.hasDefault = c.hasDefault

/-- A column that is read follows its definition in the sense of
`ColumnDef.Reads`: the name, whether nulls are excluded, whether it is a key
by itself, and whether it has a default. -/
theorem reads_of_column_eq_ok {table : String} {c : ColumnDef} {span : Option Span}
    {read : Column} (h : column table c.name c.type c.constraints span = .ok read) :
    c.Reads read := by
  unfold column at h
  split at h
  case h_2 => cases h
  case h_1 type htype =>
    split at h
    case isTrue => cases h
    case isFalse hname =>
      obtain ⟨d, hd, rfl⟩ := Proofs.map_eq_ok_iff.mp h
      -- Whether nulls are excluded, whether it is a key, and whether it has a default.
      refine ⟨rfl, by simpa using hname, ?_, ?_, ?_⟩
      · show c.constraints.foldl excludesNull false = c.notNull
        rw [foldl_excludesNull, ColumnDef.notNull]
        rcases (c.constraints.filterMap allowsNull?).getLast? with _ | _ | _ <;> rfl
      · show c.constraints.any isPrimary = _
        rw [funext isPrimary_eq]
      · show (c.constraints.any suppliesValue || serialTypes.contains d.name) = c.hasDefault
        rw [funext suppliesValue_eq, contains_serialTypes hd, ColumnDef.hasDefault, htype]
        rfl

/-- The elements that are read are columns where the tree has column
definitions, and constraints elsewhere. `Option.Rel` says so for one
element, so that `List.rel_filterMap` says it for all. -/
theorem rel_column?_of_element_eq_ok {table : String} {tree : Tree} {span : Option Span}
    {part : Element} (h : element table tree span = .ok part) :
    Option.Rel ColumnDef.Reads (columnDef? tree) part.column? := by
  unfold element at h
  split at h
  · obtain ⟨read, hread, rfl⟩ := Proofs.map_eq_ok_iff.mp h
    exact .some (reads_of_column_eq_ok (c := ⟨_, _, _⟩) hread)
  case h_2 hother =>
    obtain ⟨constraint, -, rfl⟩ := Proofs.map_eq_ok_iff.mp h
    have hnone : columnDef? tree = none := by
      unfold columnDef?
      split
      · exact absurd rfl (hother _ _ _)
      · rfl
    rw [hnone]
    exact .none

/-! ## Keys -/

/-- The name of a key column is found behind its direction, which
`withoutDirection` takes off. -/
theorem bind_withoutDirection (key : Tree) :
    (withoutDirection key).bind Tree.name? = key.name? := by
  cases key with
  | ordered target => cases target <;> simp [withoutDirection, Tree.name?]
  | _ => rfl

/-- A tree is taken by `nameOf` for a name exactly if it has one. -/
theorem nameOf_eq_ok_iff {tree : Tree} {name : String} :
    nameOf tree = .ok name ↔ tree.name? = some name := by
  unfold nameOf
  cases tree.name? <;> simp

/-- The key columns are the names of the keys, without those that are empty,
which `keyColumns` drops. -/
theorem mem_keyColumns {trees : List Tree} {names : List String}
    (h : keyColumns trees = .ok names) {name : String} (hname : name ≠ "") :
    name ∈ names ↔ ∃ key ∈ trees, key.name? = some name := by
  obtain ⟨all, hall, hfilter⟩ := Proofs.bind_eq_ok_iff.mp h
  obtain rfl : (all.filter fun name => !name.isEmpty) = names := Except.ok.inj hfilter
  rw [List.mem_filter, and_iff_left (by simpa using hname)]
  have hrel := Proofs.mapM_eq_ok_iff.mp hall
  -- The induction is on the pairs of keys and names; the equations would stand in its way.
  clear hall h hfilter
  induction hrel with
  | nil => simp
  | cons hkey _ ih => simp [ih, nameOf_eq_ok_iff.mp hkey, eq_comm]

/-- A constraint is made by `knownConstraint` of a tree exactly if the tree
is of a recognised kind. -/
theorem isSome_knownConstraint (name : Option String) (tree : Tree) :
    (knownConstraint name tree).isSome = isRecognised tree := by
  cases tree <;> rfl

/-- The first part that makes a constraint is the first of a recognised
kind, so the search can be made among trees (`isSome_knownConstraint`). -/
theorem findSome?_knownConstraint (name : Option String) (parts : List Tree) :
    parts.findSome? (knownConstraint name) =
      (parts.find? isRecognised).bind (knownConstraint name) := by
  induction parts with
  | nil => rfl
  | cons part parts ih =>
    rw [List.findSome?_cons, List.find?_cons, ← isSome_knownConstraint name part]
    cases hpart : knownConstraint name part with
    | none => exact ih
    | some constraint => exact hpart.symm

/-- The key columns of a constraint that is read from parts are those of the
first part of a recognised kind, if that is a primary key.
`findSome?_knownConstraint` finds this part. -/
theorem isKeyColumn_iff_of_parts {name : Option String} {parts : List Tree} {form : String}
    {constraint : TableConstraint}
    (h : (parts.findSome? (knownConstraint name)).getD (.ok ⟨.other form, name, []⟩) =
      .ok constraint) {column : String} (hcolumn : column ≠ "") :
    (constraint.kind = .primaryKey ∧ column ∈ constraint.columns) ↔
      ∃ keys, parts.find? isRecognised = some (.primaryKey keys) ∧
        ∃ key ∈ keys, key.name? = some column := by
  rw [findSome?_knownConstraint] at h
  cases hfind : parts.find? isRecognised with
  | none =>
    rw [hfind] at h
    obtain rfl := Except.ok.inj h
    simp
  | some part =>
    have hpart : isRecognised part = true := List.find?_some hfind
    rw [hfind] at h
    -- Of the kinds that are recognised, only one makes a primary key.
    cases part with
    | primaryKey keys =>
      obtain ⟨names, hnames, rfl⟩ := Proofs.map_eq_ok_iff.mp h
      simp [mem_keyColumns hnames hcolumn]
    | foreignKey keys =>
      obtain ⟨names, -, rfl⟩ := Proofs.map_eq_ok_iff.mp h
      simp
    | unique | check =>
      obtain rfl := Except.ok.inj h
      simp
    | _ => cases hpart

/-- A key is listed by the constraint that an element states (`listsKey`)
when it is among the columns of that constraint. -/
theorem isKeyColumn_iff_listsKey {tree : Tree} {constraint : TableConstraint}
    (h : constraintOf tree = .ok constraint) {column : String} (hcolumn : column ≠ "") :
    (constraint.kind = .primaryKey ∧ column ∈ constraint.columns) ↔
      listsKey column tree = true := by
  unfold constraintOf at h
  have hlists : listsKey column tree = true ↔
      ∃ keys, primaryKey? tree = some keys ∧ ∃ key ∈ keys, key.name? = some column := by
    unfold listsKey
    cases primaryKey? tree <;> simp [bind_withoutDirection]
  rw [hlists]
  cases tree with
  | constraint name parts =>
    refine (isKeyColumn_iff_of_parts h hcolumn).trans (exists_congr fun keys => ?_)
    refine and_congr_left fun _ => ?_
    show _ ↔ (match parts.find? isRecognised with
      | some (.primaryKey keys) => some keys
      | _ => none) = some keys
    rcases parts.find? isRecognised with _ | part
    · simp
    · cases part <;> simp
  -- Without a name the element is its own only part.
  | _ => simpa [isRecognised, primaryKey?] using isKeyColumn_iff_of_parts h hcolumn

/-- The key columns that one element of a table adds. -/
def Element.keys (part : Element) : List String :=
  (part.constraint?.map fun c => if c.kind = .primaryKey then c.columns else []).getD []

/-- The key columns of all constraints are those of all elements, which
`Element.keys` gives one by one. -/
theorem flatMap_constraint? (parts : List Element) :
    ((parts.filterMap Element.constraint?).flatMap fun c =>
      if c.kind = .primaryKey then c.columns else []) = parts.flatMap Element.keys := by
  induction parts with
  | nil => rfl
  | cons part parts ih =>
    rw [List.flatMap_cons, ← ih]
    cases part <;> rfl

/-- An element that is read has the key columns that its tree lists, by
`isKeyColumn_iff_listsKey`. A column definition lists none, also if it is a
key by itself. -/
theorem mem_keys_of_element_eq_ok {table : String} {tree : Tree} {span : Option Span}
    {part : Element} (h : element table tree span = .ok part) {column : String}
    (hcolumn : column ≠ "") : column ∈ part.keys ↔ listsKey column tree = true := by
  unfold element at h
  split at h
  · obtain ⟨read, -, rfl⟩ := Proofs.map_eq_ok_iff.mp h
    simp [Element.keys, Element.constraint?, listsKey, primaryKey?]
  · obtain ⟨constraint, hconstraint, rfl⟩ := Proofs.map_eq_ok_iff.mp h
    rw [← isKeyColumn_iff_listsKey hconstraint hcolumn]
    show column ∈ (if constraint.kind = .primaryKey then constraint.columns else []) ↔ _
    split <;> simp_all

/-! ## Tables -/

/-- A statement with tokens has an extent, which reaches over all of them
(`Sql.tokenSpan`). -/
theorem statementExtent_eq_ok {tokens : List Token} (h : tokens ≠ []) :
    statementExtent tokens = .ok (extentOf (Sql.tokenSpan tokens)) := by
  cases tokens with
  | nil => exact absurd rfl h
  | cons => rfl

/-- There is a span, or the lack of one, for each element, whatever number
of spans `Sql.elementSpans` finds. -/
theorem length_spansFor (tokens : List Token) (count : Nat) :
    (spansFor tokens count).length = count := by
  unfold spansFor
  simp only
  split
  · rw [List.length_map]
    assumption
  · exact List.length_replicate

/-- The elements of a table with the spans that the tokens show. -/
def readElements (tokens : List Token) (table : String) (trees : List Tree) :
    Except Obstacle (List Element) :=
  (trees.zip (spansFor tokens trees.length)).mapM fun pair => element table pair.1 pair.2

/-- What creates a table either names no table or lists no elements, and is
malformed, or it is the name of a table with elements, which are then read
by `readElements`. -/
theorem tableOf_cases (tokens : List Token) (target : Option Tree) :
    (∃ what, tableOf tokens target = .error (.malformed what)) ∧
        (∀ name schema trees, target = some (.schema (some (.table (some name) schema)) trees) →
          name = "") ∨
      ∃ name schema trees,
        target = some (.schema (some (.table (some name) schema)) trees) ∧ name ≠ "" ∧
          tableOf tokens target = (do
            let parts ← readElements tokens name trees
            let extent ← statementExtent tokens
            return .table
              { name
                columns := parts.filterMap Element.column?
                constraints := parts.filterMap Element.constraint?
                schema := schema.filter fun schema => !schema.isEmpty
                extent }) := by
  cases target with
  | none => exact .inl ⟨⟨_, rfl⟩, nofun⟩
  | some target =>
    cases target with
    | table name schema =>
      -- A bare name has no elements, whether it is empty or not.
      refine .inl ⟨?_, nofun⟩
      cases name with
      | none => exact ⟨_, rfl⟩
      | some name =>
        unfold tableOf
        by_cases hname : name.isEmpty = true
        · exact ⟨_, if_pos hname⟩
        · exact ⟨_, if_neg hname⟩
    | schema inner trees =>
      cases inner with
      | none => exact .inl ⟨⟨_, rfl⟩, nofun⟩
      | some inner =>
        cases inner with
        | table name schema =>
          cases name with
          | none => exact .inl ⟨⟨_, rfl⟩, nofun⟩
          | some name =>
            by_cases hname : name.isEmpty = true
            · refine .inl ⟨⟨_, if_pos hname⟩, ?_⟩
              rintro _ _ _ ⟨⟩
              simpa using hname
            · exact .inr ⟨name, schema, trees, rfl, by simpa using hname, if_neg hname⟩
        | _ => exact .inl ⟨⟨_, rfl⟩, nofun⟩
    | _ => exact .inl ⟨⟨_, rfl⟩, nofun⟩

/-- A statement that declares a table lists elements, which were read with
the spans that its tokens show. Nothing else in the outcome of a statement
is a table, as `tableOf_cases` shows. -/
theorem readElements_of_ofStatement {tokens : List Token} {tree : Option Tree} {t : Table}
    (h : ofStatement tokens tree = .ok (.table t)) :
    ∃ parts, readElements tokens t.name (tableElements tree) = .ok parts ∧
      t.columns = parts.filterMap Element.column? ∧
      t.constraints = parts.filterMap Element.constraint? := by
  unfold ofStatement at h
  split at h
  · cases h
  · cases h
  · split at h
    case h_1 target htarget =>
      rcases tableOf_cases tokens target with
        ⟨⟨what, hwhat⟩, -⟩ | ⟨name, schema, trees, rfl, -, heq⟩
      · rw [hwhat] at h
        cases h
      · rw [heq] at h
        obtain ⟨parts, hparts, h⟩ := Proofs.bind_eq_ok_iff.mp h
        obtain ⟨extent, -, h⟩ := Proofs.bind_eq_ok_iff.mp h
        obtain rfl := Declaration.table.inj (Except.ok.inj h)
        -- The elements that were read are those that the tree has.
        have helements : tableElements tree = trees := by
          unfold tableTarget? at htarget
          split at htarget
          case h_1 kind target =>
            split at htarget
            · obtain rfl := Option.some.inj htarget
              rfl
            · cases htarget
          case h_2 => cases htarget
        rw [helements]
        exact ⟨parts, hparts, rfl, rfl⟩
    case h_2 =>
      obtain ⟨extent, -, hd⟩ := Proofs.map_eq_ok_iff.mp h
      cases hd

/-- A statement that declares a table lists elements, and each of them was
read. The spans are left out here, which `Proofs.forall₂_of_zip` allows. -/
theorem ofStatement_eq_table {tokens : List Token} {tree : Option Tree} {t : Table}
    (h : ofStatement tokens tree = .ok (.table t)) :
    ∃ parts, List.Forall₂ (fun tree part => ∃ span, element t.name tree span = .ok part)
        (tableElements tree) parts ∧
      t.columns = parts.filterMap Element.column? ∧
      t.constraints = parts.filterMap Element.constraint? := by
  obtain ⟨parts, hparts, hcolumns, hconstraints⟩ := readElements_of_ofStatement h
  refine ⟨parts, ?_, hcolumns, hconstraints⟩
  exact Proofs.forall₂_of_zip (length_spansFor tokens _).symm (Proofs.mapM_eq_ok_iff.mp hparts)

/-- The columns of a table are those that its elements define, in their
order and without the elements that are constraints. The relation is
`ColumnDef.Reads`. -/
theorem forall₂_columns {tokens : List Token} {tree : Option Tree} {t : Table}
    (h : ofStatement tokens tree = .ok (.table t)) :
    List.Forall₂ ColumnDef.Reads ((tableElements tree).filterMap columnDef?) t.columns := by
  obtain ⟨parts, hparts, hcolumns, -⟩ := ofStatement_eq_table h
  rw [hcolumns]
  refine List.rel_filterMap ?_ hparts
  rintro tree part ⟨span, hpart⟩
  exact rel_column?_of_element_eq_ok hpart

/-- The key columns of a table are those that its elements list, by
`mem_keys_of_element_eq_ok` for each of them. -/
theorem contains_primaryKeys {tokens : List Token} {tree : Option Tree} {t : Table}
    (h : ofStatement tokens tree = .ok (.table t)) {column : String} (hcolumn : column ≠ "") :
    t.primaryKeys.contains column = (tableElements tree).any (listsKey column) := by
  obtain ⟨parts, hparts, -, hconstraints⟩ := ofStatement_eq_table h
  have hkeys : t.primaryKeys = parts.flatMap Element.keys := by
    rw [Table.primaryKeys, hconstraints, flatMap_constraint?]
  rw [hkeys, Bool.eq_iff_iff, List.contains_iff_mem]
  -- Elements and what was read from them are followed side by side.
  generalize tableElements tree = trees at hparts ⊢
  clear hkeys hconstraints h
  induction hparts with
  | nil => simp
  | cons hpart _ ih =>
    obtain ⟨span, hpart⟩ := hpart
    rw [List.flatMap_cons, List.mem_append, List.any_cons, Bool.or_eq_true, ih,
      mem_keys_of_element_eq_ok hpart hcolumn]

end SchemaTypes.Declaration
