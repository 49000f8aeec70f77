import SchemaTypes.Generate.Run
import SchemaTypes.Proofs.Sql.ElementTrees

/-!
# `SchemaTypes.Proofs.Declaration.Completeness`: when a source is read to its end

A malformed statement is passed over, and the reading goes on. One thing
ends it: a column whose type has no name of its own, such as an object
identifier or an interval with a unit, or an array of these. Such a type
ends the reading only if no column in front of it makes the statement
malformed. `Statement.endsReading` says this of a statement.

`readDeclarations_outcome` shows that nothing else can happen: a source
that can be cut into tokens is read to its end exactly if none of its
statements ends the reading, and then each statement gives one
declaration or is reported once as passed over. That no other obstacle
is met rests on the trees that the grammar builds
(`Sql.Grammar.isElement_of_statement`).
-/

set_option autoImplicit false

namespace SchemaTypes

open Sql (Token Tree Span Dialect)

namespace Declaration

/-- Whether a type has no name of its own, inside any number of array
levels. -/
def isUntypable : Tree → Bool
  | .untypable => true
  | .dataType name (element :: _) => name == "ARRAY" && isUntypable element
  | _ => false

/-- Whether a column lacks its name or its type. -/
def ColumnDef.isMalformed (c : ColumnDef) : Bool :=
  c.name.isEmpty || c.type.isNone

/-- Whether a column has a type without a name of its own. -/
def ColumnDef.isUntypable (c : ColumnDef) : Bool :=
  c.type.any Declaration.isUntypable

/-- Whether the first column that cannot be read has a type without a name
of its own. -/
def endsInColumn (columns : List ColumnDef) : Bool :=
  (columns.find? fun c => c.isMalformed || c.isUntypable).any fun c => !c.isMalformed

/-- The elements of the table that a statement creates, if the table has a
name. -/
def namedElements? : Option Tree → Option (List Tree)
  | some (.create kind (some (.schema (some (.table (some name) _)) elements))) =>
    if Text.upper (kind.getD "") == "TABLE" && !name.isEmpty then some elements else none
  | _ => none

end Declaration

/-- Whether a statement ends the reading of its source. -/
def Statement.endsReading (s : Statement) : Bool :=
  (Declaration.enum? s.tokens).isNone &&
    (Declaration.namedElements? s.tree).any fun elements =>
      Declaration.endsInColumn (elements.filterMap Declaration.columnDef?)

/-- What a statement comes to: a declaration, or a report that it was
passed over. -/
def Statement.ComesTo (s : Statement) : Declaration ⊕ Skipped → Prop
  | .inl declaration => Declaration.ofStatement s.tokens s.tree = .ok declaration
  | .inr skipped =>
    skipped.start = s.start ∧
      Declaration.ofStatement s.tokens s.tree = .error (.malformed skipped.what)

namespace Declaration

/-! ## Columns -/

/-- A type is refused by `dataType` exactly if it has no name of its own, as
`isUntypable` says. -/
theorem dataType_eq_error_iff {type : Tree} (h : type.IsType) {e : Obstacle} :
    dataType type = .error e ↔ isUntypable type = true ∧ e = .untypable := by
  unfold Tree.IsType at h
  fun_induction dataType type with
  | case1 name element arguments harray ih =>
    rw [ne_eq, Proofs.map_eq_error_iff] at h
    rw [Proofs.map_eq_error_iff, ih h, isUntypable, harray, Bool.true_and]
  | case2 name element arguments harray => simp [isUntypable, harray]
  | case3 name => simp [isUntypable]
  | case4 spelling => simp [isUntypable]
  | case5 => simp [isUntypable, eq_comm]
  | case6 tree hcons hnil huser huntypable =>
    have htypable : isUntypable tree = false := by
      unfold isUntypable
      split
      · exact (huntypable rfl).elim
      · exact (hcons _ _ _ rfl).elim
      · rfl
    cases hname : nameOf tree with
    | ok name => simp [htypable, Except.map]
    | error e' =>
      -- Only a missing name can be the matter, which `h` excludes.
      unfold nameOf at hname
      split at hname
      · cases hname
      · obtain rfl := Except.error.inj hname
        exact absurd (by simp_all [nameOf, Except.map]) h

/-- A column is refused if it is malformed, or else if its type has no name
of its own. The first fault hides the second. What is wrong with the type is
told by `dataType_eq_error_iff`. -/
theorem column_eq_error_iff {table : String} {c : ColumnDef} {span : Option Span}
    (h : ∀ t, c.type = some t → t.IsType) {e : Obstacle} :
    column table c.name c.type c.constraints span = .error e ↔
      c.isMalformed = true ∧ e = .malformed (.columnWithoutType table c.name) ∨
        c.isMalformed = false ∧ c.isUntypable = true ∧ e = .untypable := by
  unfold column ColumnDef.isMalformed ColumnDef.isUntypable
  cases htype : c.type with
  | none => simp [eq_comm]
  | some type =>
    by_cases hname : c.name.isEmpty = true
    · simp [hname, @eq_comm _ e]
    · simp [hname, Proofs.map_eq_error_iff, dataType_eq_error_iff (h type htype)]

/-! ## Elements -/

/-- A list of keys that all have names is read by `keyColumns`, so keys are
never the reason for a refusal. -/
theorem exists_keyColumns_eq_ok {keys : List Tree} (h : ∀ key ∈ keys, key.name? ≠ none) :
    ∃ names, keyColumns keys = .ok names := by
  unfold keyColumns
  cases hnames : keys.mapM nameOf with
  | ok names => exact ⟨_, rfl⟩
  | error e =>
    obtain ⟨before, key, after, rfl, -, hkey⟩ := Proofs.mapM_eq_error_iff.mp hnames
    have hname := h key (List.mem_append_right _ List.mem_cons_self)
    unfold nameOf at hkey
    split at hkey
    · cases hkey
    · contradiction

/-- A part of a recognised kind makes a constraint, since the grammar gives
all of its keys names (`exists_keyColumns_eq_ok`). -/
theorem exists_knownConstraint_eq_ok {part : Tree} (hpart : part.IsConstraint)
    (name : Option String) {read : Except Obstacle TableConstraint}
    (h : knownConstraint name part = some read) : ∃ constraint, read = .ok constraint := by
  cases part with
  | primaryKey keys | foreignKey keys =>
    obtain ⟨names, hnames⟩ := exists_keyColumns_eq_ok hpart
    obtain rfl := Option.some.inj h
    exact ⟨_, by rw [hnames]; rfl⟩
  | unique | check => exact ⟨_, (Option.some.inj h).symm⟩
  | _ => cases h

/-- Every constraint is read by `constraintOf`, one of a recognised kind or
not. -/
theorem exists_constraintOf_eq_ok {tree : Tree} (h : tree.IsElement)
    (hcolumn : columnDef? tree = none) : ∃ constraint, constraintOf tree = .ok constraint := by
  -- A named constraint and one without a name are both read from a list of parts.
  have hparts : ∀ (name : Option String) (parts : List Tree) (form : String),
      (∀ part ∈ parts, part.IsConstraint) →
      ∃ constraint, (parts.findSome? (knownConstraint name)).getD
        (.ok ⟨.other form, name, []⟩) = .ok constraint := by
    intro name parts form hparts
    cases hfound : parts.findSome? (knownConstraint name) with
    | none => exact ⟨_, rfl⟩
    | some read =>
      obtain ⟨part, hmem, hread⟩ := List.exists_of_findSome?_eq_some hfound
      exact exists_knownConstraint_eq_ok (hparts part hmem) name hread
  unfold constraintOf
  cases tree with
  | columnDef => cases hcolumn
  | constraint name parts => exact hparts _ parts _ h
  | _ => exact hparts none [_] _ fun part hpart => List.mem_singleton.mp hpart ▸ h

/-- An element is refused only as a column, and the faults are those of
`column_eq_error_iff`. -/
theorem element_eq_error_iff {table : String} {tree : Tree} {span : Option Span}
    (h : tree.IsElement) {e : Obstacle} :
    element table tree span = .error e ↔ ∃ c, columnDef? tree = some c ∧
      (c.isMalformed = true ∧ e = .malformed (.columnWithoutType table c.name) ∨
        c.isMalformed = false ∧ c.isUntypable = true ∧ e = .untypable) := by
  cases hcolumn : columnDef? tree with
  | none =>
    -- A constraint is always read.
    obtain ⟨constraint, hconstraint⟩ := exists_constraintOf_eq_ok h hcolumn
    have hread : element table tree span = .ok (.constraint constraint) := by
      unfold element
      split
      · cases hcolumn
      · rw [hconstraint]
        rfl
    simp [hread]
  | some c =>
    cases tree with
    | columnDef name type constraints =>
      obtain rfl := Option.some.inj hcolumn
      simp only [element, Proofs.map_eq_error_iff, Option.some.injEq, exists_eq_left']
      exact @column_eq_error_iff table ⟨name.getD "", type, constraints⟩ span h e
    | _ => cases hcolumn

/-- An element is read unless it is a column with a fault. This is
`element_eq_error_iff` the other way round. -/
theorem exists_element_eq_ok_iff {table : String} {tree : Tree} {span : Option Span}
    (h : tree.IsElement) :
    (∃ part, element table tree span = .ok part) ↔
      ∀ c, columnDef? tree = some c → c.isMalformed = false ∧ c.isUntypable = false := by
  cases hread : element table tree span with
  | error e =>
    obtain ⟨c, hc, hfault⟩ := (element_eq_error_iff h).mp hread
    constructor
    · exact nofun
    · intro hfaultless
      obtain ⟨hmalformed, huntypable⟩ := hfaultless c hc
      simp [hmalformed, huntypable] at hfault
  | ok part =>
    refine iff_of_true ⟨part, rfl⟩ fun c hc => ?_
    -- Neither of the two faults can be there, as each would have been an error.
    have hno : ∀ e, ¬element table tree span = .error e := by simp [hread]
    simp only [element_eq_error_iff h, hc, Option.some.injEq, exists_eq_left'] at hno
    have hmalformed : c.isMalformed = false := by
      simpa using hno (.malformed (.columnWithoutType table c.name))
    exact ⟨hmalformed, by simpa [hmalformed] using hno .untypable⟩

/-- The first column with a fault decides whether columns end the reading:
`endsInColumn` is false if it is malformed, and true if only its type has no
name. -/
theorem endsInColumn_cons (c : ColumnDef) (columns : List ColumnDef) :
    endsInColumn (c :: columns) =
      if c.isMalformed || c.isUntypable then !c.isMalformed else endsInColumn columns := by
  unfold endsInColumn
  rw [List.find?_cons]
  cases c.isMalformed || c.isUntypable <;> rfl

/-- Elements are read up to the first column that is refused
(`element_eq_error_iff`). If it is not malformed itself, its type has no
name of its own. -/
theorem mapM_element_eq_untypable_iff {table : String} {pairs : List (Tree × Option Span)}
    (h : ∀ pair ∈ pairs, pair.1.IsElement) :
    (pairs.mapM fun pair => element table pair.1 pair.2) = .error .untypable ↔
      endsInColumn ((pairs.map Prod.fst).filterMap columnDef?) = true := by
  induction pairs with
  | nil => exact ⟨nofun, nofun⟩
  | cons pair pairs ih =>
    have hpair : pair.1.IsElement := h pair List.mem_cons_self
    have hrest := ih fun pair' hpair' => h pair' (List.mem_cons_of_mem _ hpair')
    rw [Proofs.mapM_cons_eq_error_iff, List.map_cons, List.filterMap_cons, hrest,
      element_eq_error_iff hpair, exists_element_eq_ok_iff hpair]
    cases columnDef? pair.1 with
    | none => simp
    | some c =>
      -- A malformed column decides before its type is looked at.
      rw [endsInColumn_cons]
      cases hmalformed : c.isMalformed <;> cases huntypable : c.isUntypable <;>
        simp [hmalformed, huntypable]

/-! ## Statements -/

/-- The elements of a table are refused as a whole if one of them is
malformed, or else if one has a type without a name of its own. There is no
third reason, because a part without a name is never found by the grammar
(`Sql.Tree.IsElement`). -/
theorem readElements_eq_error {tokens : List Token} {table : String} {trees : List Tree}
    (h : ∀ tree ∈ trees, tree.IsElement) {e : Obstacle}
    (he : readElements tokens table trees = .error e) :
    (∃ what, e = .malformed what) ∨ e = .untypable := by
  obtain ⟨before, pair, after, hpairs, -, hpair⟩ := Proofs.mapM_eq_error_iff.mp he
  have hmem : pair ∈ trees.zip (spansFor tokens trees.length) :=
    hpairs ▸ List.mem_append_right _ List.mem_cons_self
  obtain ⟨c, -, ⟨-, rfl⟩ | ⟨-, -, rfl⟩⟩ :=
    (element_eq_error_iff (h pair.1 (List.of_mem_zip hmem).1)).mp hpair
  · exact .inl ⟨_, rfl⟩
  · exact .inr rfl

/-- The elements of a table end the reading exactly if its columns do, as
`endsInColumn` says. -/
theorem readElements_eq_untypable_iff {tokens : List Token} {table : String} {trees : List Tree}
    (h : ∀ tree ∈ trees, tree.IsElement) :
    readElements tokens table trees = .error .untypable ↔
      endsInColumn (trees.filterMap columnDef?) = true := by
  have hfst : (trees.zip (spansFor tokens trees.length)).map Prod.fst = trees :=
    List.map_fst_zip (Nat.le_of_eq (length_spansFor tokens trees.length).symm)
  unfold readElements
  rw [mapM_element_eq_untypable_iff fun pair hpair => h pair.1 (List.of_mem_zip hpair).1, hfst]

/-- The table that a statement creates has elements and a name.
`namedElements?` says this of the tree at once, `tableTarget?` in two
steps. -/
theorem namedElements?_eq_some_iff {tree : Option Tree} {trees : List Tree} :
    namedElements? tree = some trees ↔ ∃ name schema,
      tableTarget? tree = some (some (.schema (some (.table (some name) schema)) trees)) ∧
        name ≠ "" := by
  constructor
  · intro h
    -- Both sides ask for a statement that creates a table, and for a name that is not empty.
    unfold namedElements? at h
    split at h
    case h_1 kind name schema elements =>
      split at h
      case isTrue hcreates =>
        rw [Bool.and_eq_true] at hcreates
        obtain rfl := Option.some.inj h
        exact ⟨name, schema, if_pos hcreates.1, by simpa using hcreates.2⟩
      case isFalse => cases h
    case h_2 => cases h
  · rintro ⟨name, schema, htarget, hname⟩
    unfold tableTarget? at htarget
    split at htarget
    case h_1 kind target =>
      split at htarget
      case isTrue hkind =>
        obtain rfl := Option.some.inj htarget
        have hnamed : (!name.isEmpty) = true := by simpa using hname
        exact if_pos (by rw [hkind, hnamed, Bool.and_self])
      case isFalse => cases htarget
    case h_2 => cases htarget

/-- A statement that creates no table, or one without a name, has no
`namedElements?` that could end the reading. -/
theorem namedElements?_eq_none {tree : Option Tree}
    (h : ∀ name schema trees,
      tableTarget? tree = some (some (.schema (some (.table (some name) schema)) trees)) →
        name = "") : namedElements? tree = none := by
  rw [Option.eq_none_iff_forall_ne_some]
  intro trees hnamed
  obtain ⟨name, schema, htarget, hname⟩ := namedElements?_eq_some_iff.mp hnamed
  exact hname (h name schema trees htarget)

/-- The elements of a table with a name, its `namedElements?`, are the
elements of the statement. -/
theorem tableElements_of_namedElements? {tree : Option Tree} {trees : List Tree}
    (h : namedElements? tree = some trees) : tableElements tree = trees := by
  unfold namedElements? at h
  split at h
  · split at h
    · exact Option.some.inj h
    · cases h
  · cases h

/-- A table of which the elements are all there is declared, is malformed,
or ends the reading because of a column. The cases are those of
`tableOf_cases`. -/
theorem tableOf_outcome {tokens : List Token} (htokens : tokens ≠ []) {tree : Option Tree}
    (helements : ∀ e ∈ tableElements tree, e.IsElement) {target : Option Tree}
    (htarget : tableTarget? tree = some target) :
    let ends := (namedElements? tree).any fun trees => endsInColumn (trees.filterMap columnDef?)
    ends = false ∧
        ((∃ declaration, tableOf tokens target = .ok declaration) ∨
          ∃ what, tableOf tokens target = .error (.malformed what)) ∨
      ends = true ∧ tableOf tokens target = .error .untypable := by
  rcases tableOf_cases tokens target with
    ⟨hmalformed, hnameless⟩ | ⟨name, schema, trees, rfl, hname, heq⟩
  · have hnone : namedElements? tree = none := by
      refine namedElements?_eq_none fun name schema trees hsome => ?_
      exact hnameless name schema trees (Option.some.inj (htarget.symm.trans hsome))
    rw [hnone]
    exact .inl ⟨rfl, .inr hmalformed⟩
  · have hnamed : namedElements? tree = some trees :=
      namedElements?_eq_some_iff.mpr ⟨name, schema, htarget, hname⟩
    rw [tableElements_of_namedElements? hnamed] at helements
    rw [hnamed, heq, statementExtent_eq_ok htokens]
    -- From here on the elements decide: the extent of the statement is always there.
    have hiff := @readElements_eq_untypable_iff tokens name trees helements
    have hendless : readElements tokens name trees ≠ .error .untypable →
        endsInColumn (trees.filterMap columnDef?) = false :=
      fun hne => Bool.eq_false_iff.mpr fun hends => hne (hiff.mpr hends)
    cases hread : readElements tokens name trees with
    | ok parts =>
      rw [hread] at hendless
      exact .inl ⟨hendless nofun, .inl ⟨_, rfl⟩⟩
    | error e =>
      rw [hread] at hiff hendless
      rcases readElements_eq_error helements hread with ⟨what, rfl⟩ | rfl
      · exact .inl ⟨hendless nofun, .inr ⟨what, rfl⟩⟩
      · exact .inr ⟨hiff.mp rfl, rfl⟩

/-- A statement with tokens and with elements that are all there gives a
declaration, is malformed, or ends the reading, and `endsReading` tells when
it does the last. -/
theorem ofStatement_outcome (s : Statement) (htokens : s.tokens ≠ [])
    (helements : ∀ e ∈ tableElements s.tree, e.IsElement) :
    s.endsReading = false ∧
        ((∃ declaration, ofStatement s.tokens s.tree = .ok declaration) ∨
          ∃ what, ofStatement s.tokens s.tree = .error (.malformed what)) ∨
      s.endsReading = true ∧ ofStatement s.tokens s.tree = .error .untypable := by
  unfold ofStatement Statement.endsReading
  -- Enums are told by their tokens and come first, then tables, then everything else.
  cases henum : enum? s.tokens with
  | some read =>
    cases read with
    | ok e => exact .inl ⟨rfl, .inl ⟨_, rfl⟩⟩
    | error what => exact .inl ⟨rfl, .inr ⟨_, rfl⟩⟩
  | none =>
    cases htarget : tableTarget? s.tree with
    | some target => exact tableOf_outcome htokens helements htarget
    | none =>
      have hnone : namedElements? s.tree = none :=
        namedElements?_eq_none fun _ _ _ hsome => nomatch htarget.symm.trans hsome
      rw [hnone, statementExtent_eq_ok htokens]
      exact .inl ⟨rfl, .inl ⟨_, rfl⟩⟩

end Declaration

/-! ## Sources -/

namespace Reading

/-- Statements that each come to an outcome (`Statement.ComesTo`) are read
to the end, and their outcomes make up the reading: declarations and
reports, each in order. -/
theorem ofStatements_of_comesTo {statements : List Statement}
    {outcomes : List (Declaration ⊕ Skipped)}
    (h : List.Forall₂ Statement.ComesTo statements outcomes) :
    ofStatements statements =
      { declarations := outcomes.filterMap Sum.getLeft?
        skipped := outcomes.filterMap Sum.getRight?
        complete := true } := by
  induction h with
  | nil => rfl
  | @cons s outcome statements outcomes houtcome _ ih =>
    cases outcome with
    | inl declaration =>
      have hread : Declaration.ofStatement s.tokens s.tree = .ok declaration := houtcome
      rw [ofStatements, hread, ih]
      rfl
    | inr skipped =>
      obtain ⟨hstart, hread⟩ := houtcome
      rw [ofStatements, hread, ih, ← hstart]
      rfl

/-- Statements that do not end the reading are read to the end, and each of
them comes to one outcome. The outcomes are collected first and then
`ofStatements_of_comesTo` applies. -/
theorem ofStatements_of_endless {statements : List Statement}
    (h : ∀ s ∈ statements, ∃ outcome, s.ComesTo outcome) :
    ∃ outcomes, List.Forall₂ Statement.ComesTo statements outcomes ∧
      ofStatements statements =
        { declarations := outcomes.filterMap Sum.getLeft?
          skipped := outcomes.filterMap Sum.getRight?
          complete := true } := by
  have houtcomes : ∃ outcomes, List.Forall₂ Statement.ComesTo statements outcomes := by
    induction statements with
    | nil => exact ⟨[], .nil⟩
    | cons s statements ih =>
      obtain ⟨⟨outcome, houtcome⟩, hrest⟩ := List.forall_mem_cons.mp h
      obtain ⟨outcomes, houtcomes⟩ := ih hrest
      exact ⟨outcome :: outcomes, .cons houtcome houtcomes⟩
  obtain ⟨outcomes, houtcomes⟩ := houtcomes
  exact ⟨outcomes, houtcomes, ofStatements_of_comesTo houtcomes⟩

/-- A statement that cannot be read and is not malformed ends the reading of
`ofStatements`, wherever it stands. -/
theorem complete_ofStatements_of_mem {statements : List Statement} {s : Statement}
    (hs : s ∈ statements) (hread : Declaration.ofStatement s.tokens s.tree = .error .untypable) :
    (ofStatements statements).complete = false := by
  induction statements with
  | nil => nomatch hs
  | cons first statements ih =>
    unfold ofStatements
    rcases List.mem_cons.mp hs with rfl | hs
    · rw [hread]
    · split
      · exact ih hs
      · exact ih hs
      · rfl

/-- Every statement of a source comes to an outcome or ends the reading. Its
tokens are not empty, and the elements of its table are all there, because
the grammar built them (`Sql.Tree.IsElement`). -/
theorem statement_outcome {d : Dialect} {tokens : List Token} {s : Statement}
    (hs : s ∈ statements d tokens) :
    s.endsReading = false ∧ (∃ outcome, s.ComesTo outcome) ∨
      s.endsReading = true ∧
        Declaration.ofStatement s.tokens s.tree = .error .untypable := by
  obtain ⟨chunk, hchunk, rfl⟩ := List.mem_map.mp hs
  have hnonempty : chunk ≠ [] := by
    simpa using (List.mem_filter.mp hchunk).2
  have helements := Sql.Grammar.isElement_of_statement d chunk
  rcases Declaration.ofStatement_outcome ⟨chunk, _⟩ hnonempty helements with
    ⟨hendless, ⟨declaration, hread⟩ | ⟨what, hread⟩⟩ | hends
  · exact .inl ⟨hendless, .inl declaration, hread⟩
  · exact .inl ⟨hendless, .inr ⟨_, what⟩, rfl, hread⟩
  · exact .inr hends

end Reading

/-- **What it takes to read a source.** Take a source that can be cut into
tokens, under any `Dialect` record (`Sql.dialect?` gives one to MySQL and
one to all other names). If none of its statements ends the reading, the
declarations are read, and each statement in turn gave one of them or was
reported as passed over. If some statement ends the reading, there is no
list of declarations. -/
theorem readDeclarations_outcome (d : Dialect) (source : String) {tokens : List Token}
    (htokens : Sql.Lexer.tokens d.quotes source.toList = .ok tokens) :
    ((∀ s ∈ Reading.statements d tokens, s.endsReading = false) →
      ∃ outcomes, List.Forall₂ Statement.ComesTo (Reading.statements d tokens) outcomes ∧
        readDeclarations d source =
          ⟨(outcomes.filterMap Sum.getRight?).map .skipping,
            .ok (outcomes.filterMap Sum.getLeft?)⟩) ∧
    ((∃ s ∈ Reading.statements d tokens, s.endsReading = true) →
      (readDeclarations d source).result = .error .untypable) := by
  have hsource : Reading.ofSource d source.toList =
      .ok (Reading.ofStatements (Reading.statements d tokens)) := by
    unfold Reading.ofSource
    rw [htokens]
    rfl
  unfold readDeclarations
  rw [hsource]
  constructor
  · -- No statement ends the reading, so each comes to an outcome of its own.
    intro hendless
    have hcomes : ∀ s ∈ Reading.statements d tokens, ∃ outcome, s.ComesTo outcome := by
      intro s hs
      rcases Reading.statement_outcome hs with ⟨-, houtcome⟩ | ⟨hends, -⟩
      · exact houtcome
      · exact absurd (hends.symm.trans (hendless s hs)) nofun
    obtain ⟨outcomes, houtcomes, heq⟩ := Reading.ofStatements_of_endless hcomes
    refine ⟨outcomes, houtcomes, ?_⟩
    rw [heq]
    rfl
  · -- One statement that ends the reading is enough.
    rintro ⟨s, hs, hends⟩
    rcases Reading.statement_outcome hs with ⟨hendless, -⟩ | ⟨-, hread⟩
    · exact absurd (hends.symm.trans hendless) nofun
    · show (if _ then _ else _) = _
      rw [Reading.complete_ofStatements_of_mem hs hread]
      rfl

/-- The tokens of a table with a column of a type without a name of its
own. -/
def oidTokens : List Token :=
  [⟨.word, "create", 0, 5⟩, ⟨.word, "table", 7, 11⟩, ⟨.word, "t", 13, 13⟩,
   ⟨.openParen, "(", 15, 15⟩, ⟨.word, "a", 16, 16⟩, ⟨.word, "oid", 18, 20⟩,
   ⟨.closeParen, ")", 21, 21⟩]

/-- The items of `oidTokens`. -/
def oidItems : List Sql.Grammar.Item :=
  [⟨.word, "create", "CREATE"⟩, ⟨.word, "table", "TABLE"⟩, ⟨.word, "t", "T"⟩,
   ⟨.openParen, "(", "("⟩, ⟨.word, "a", "A"⟩, ⟨.word, "oid", "OID"⟩, ⟨.closeParen, ")", ")"⟩]

/-- The tokens of an enum without values and of one with a value. -/
def enumTokens : List Token :=
  [⟨.word, "create", 0, 5⟩, ⟨.word, "type", 7, 10⟩, ⟨.word, "m", 12, 12⟩, ⟨.word, "as", 14, 15⟩,
   ⟨.word, "enum", 17, 20⟩, ⟨.semicolon, ";", 21, 21⟩,
   ⟨.word, "create", 23, 28⟩, ⟨.word, "type", 30, 33⟩, ⟨.word, "n", 35, 35⟩, ⟨.word, "as", 37, 38⟩,
   ⟨.word, "enum", 40, 43⟩, ⟨.openParen, "(", 45, 45⟩, ⟨.text, "a", 46, 48⟩,
   ⟨.closeParen, ")", 49, 49⟩]

/-- The first source is given up because of its only column, and the second
is read although its first statement is malformed. -/
theorem readDeclarations_outcome_oid :
    (readDeclarations {} "create table t (a oid)").result = .error .untypable ∧
      ∃ declarations,
        (readDeclarations {} "create type m as enum; create type n as enum ('a')").result =
          .ok declarations := by
  constructor
  · have htokens : Sql.Lexer.tokens ({} : Dialect).quotes "create table t (a oid)".toList =
        .ok oidTokens := by decide +kernel
    -- The text is evaluated in two steps, with the items written out in between.
    have hitems : oidTokens.map Sql.Grammar.Item.ofToken = oidItems := by decide +kernel
    have hcolumn : ((Declaration.namedElements? (Sql.Grammar.statement {} oidTokens)).any
        fun trees => Declaration.endsInColumn (trees.filterMap Declaration.columnDef?)) = true := by
      unfold Sql.Grammar.statement
      rw [hitems]
      decide +kernel
    have henum : (Declaration.enum? oidTokens).isNone = true := by decide +kernel
    have hchunk : oidTokens ∈ Sql.statements oidTokens := by decide +kernel
    refine (readDeclarations_outcome {} _ htokens).2 ⟨_, List.mem_map_of_mem hchunk, ?_⟩
    show (_ && _) = true
    rw [henum, hcolumn]
    rfl
  · have htokens : Sql.Lexer.tokens ({} : Dialect).quotes
        "create type m as enum; create type n as enum ('a')".toList = .ok enumTokens := by
      decide +kernel
    have hendless : ∀ s ∈ Reading.statements {} enumTokens, s.endsReading = false := by
      decide +kernel
    obtain ⟨outcomes, -, heq⟩ := (readDeclarations_outcome {} _ htokens).1 hendless
    exact ⟨_, congrArg Logged.result heq⟩

end SchemaTypes
