import SchemaTypes.Proofs.Sql.Shift

/-!
# `SchemaTypes.Proofs.Sql.StatementRuns`: statements are the runs between semicolons

`statements` is defined by cutting a list of tokens and throwing empty
pieces away. The description here does not mention cutting. A run is a
piece of the list that is not empty, has no semicolon in it, and is part
of no longer such piece (`IsRun`). `exists_runs` shows that the statements
are the runs, each of them once, in the order in which they stand.

The proof takes the list apart at its first semicolon: what stands before
it is one run or nothing, and the runs behind it are those of the rest,
moved along (`isRun_append_cons_iff`).
-/

set_option autoImplicit false

namespace SchemaTypes.Sql

/-- The tokens from one index up to another are some, and no semicolon is
among them. -/
structure SemicolonFree (tokens : List Token) (start stop : Nat) : Prop where
  lt : start < stop
  le : stop ≤ tokens.length
  free : ∀ i token, start ≤ i → i < stop → tokens[i]? = some token → token.isSemicolon = false

/-- A piece without a semicolon that is part of no longer one. -/
structure IsRun (tokens : List Token) (start stop : Nat) : Prop
    extends SemicolonFree tokens start stop where
  maximal : ∀ start' stop', start' ≤ start → stop ≤ stop' →
    SemicolonFree tokens start' stop' → start' = start ∧ stop' = stop

/-- The tokens from one index up to another. -/
def piece (tokens : List Token) (start stop : Nat) : List Token :=
  (tokens.take stop).drop start

section

variable {front rest tokens : List Token} {token : Token} {start stop : Nat}

/-- Tokens without a semicolon form one run in the sense of `IsRun`, if
there are any: the whole list is free of them, and a run that can be
extended is none. -/
theorem isRun_iff_of_free (hfree : ∀ t ∈ tokens, t.isSemicolon = false) :
    IsRun tokens start stop ↔ tokens ≠ [] ∧ start = 0 ∧ stop = tokens.length := by
  have hwhole : tokens ≠ [] → SemicolonFree tokens 0 tokens.length := by
    intro hne
    refine ⟨List.length_pos_iff.mpr hne, Nat.le_refl _, ?_⟩
    intro i t _ _ ht
    exact hfree t (List.mem_of_getElem? ht)
  constructor
  · intro hrun
    have hlt := hrun.lt
    have hle := hrun.le
    have hne : tokens ≠ [] := by
      rintro rfl
      simp only [List.length_nil] at hle
      omega
    -- The whole list is free of semicolons, so a run cannot be a part of it only.
    obtain ⟨hstart, hstop⟩ := hrun.maximal 0 tokens.length (Nat.zero_le _) hle (hwhole hne)
    exact ⟨hne, hstart.symm, hstop.symm⟩
  · rintro ⟨hne, rfl, rfl⟩
    refine ⟨hwhole hne, ?_⟩
    intro start' stop' hstart hstop hpiece
    have hle := hpiece.le
    omega

/-- No piece that is `SemicolonFree` reaches over a semicolon. It ends
before the semicolon or starts behind it. -/
theorem SemicolonFree.before_or_behind (htoken : token.isSemicolon = true)
    (h : SemicolonFree (front ++ token :: rest) start stop) :
    stop ≤ front.length ∨ front.length < start := by
  rcases Nat.lt_or_ge front.length stop with hstop | hstop
  · rcases Nat.lt_or_ge front.length start with hstart | hstart
    · exact .inr hstart
    · have hfree := h.free front.length token hstart hstop (by simp)
      rw [htoken] at hfree
      cases hfree
  · exact .inl hstop

/-- Behind a semicolon, pieces that are `SemicolonFree` are those of the
rest, with their places counted from there. -/
theorem semicolonFree_behind_iff :
    SemicolonFree (front ++ token :: rest) (start + (front.length + 1))
        (stop + (front.length + 1)) ↔ SemicolonFree rest start stop := by
  have hget : ∀ i, (front ++ token :: rest)[i + (front.length + 1)]? = rest[i]? := by
    intro i
    rw [List.getElem?_append_right (by omega)]
    rw [show i + (front.length + 1) - front.length = i + 1 by omega, List.getElem?_cons_succ]
  constructor
  · rintro ⟨hlt, hle, hfree⟩
    simp only [List.length_append, List.length_cons] at hle
    refine ⟨by omega, by omega, ?_⟩
    intro i t hi hi' ht
    exact hfree (i + (front.length + 1)) t (by omega) (by omega) ((hget i).trans ht)
  · rintro ⟨hlt, hle, hfree⟩
    refine ⟨by omega, by simp only [List.length_append, List.length_cons]; omega, ?_⟩
    intro i t hi hi' ht
    -- Every place in the piece is behind the semicolon.
    obtain ⟨j, rfl⟩ : ∃ j, i = j + (front.length + 1) := ⟨i - (front.length + 1), by omega⟩
    exact hfree j t (by omega) (by omega) ((hget j).symm.trans ht)

/-- Before a semicolon, pieces that are `SemicolonFree` are those of the
front, at the same places. -/
theorem semicolonFree_before_iff (hstop : stop ≤ front.length) :
    SemicolonFree (front ++ rest) start stop ↔ SemicolonFree front start stop := by
  have hget : ∀ i, i < stop → (front ++ rest)[i]? = front[i]? := by
    intro i hi
    exact List.getElem?_append_left (by omega)
  constructor
  · rintro ⟨hlt, -, hfree⟩
    refine ⟨hlt, hstop, ?_⟩
    intro i t hi hi' ht
    exact hfree i t hi hi' ((hget i hi').trans ht)
  · rintro ⟨hlt, hle, hfree⟩
    refine ⟨hlt, by rw [List.length_append]; omega, ?_⟩
    intro i t hi hi' ht
    exact hfree i t hi hi' ((hget i hi').symm.trans ht)

/-- A run stands before a semicolon or behind it
(`SemicolonFree.before_or_behind`), and is a run there. -/
theorem isRun_append_cons_iff (htoken : token.isSemicolon = true) :
    IsRun (front ++ token :: rest) start stop ↔
      IsRun front start stop ∨
        ∃ start' stop', IsRun rest start' stop' ∧
          start = start' + (front.length + 1) ∧ stop = stop' + (front.length + 1) := by
  constructor
  · rintro ⟨hpiece, hmaximal⟩
    rcases hpiece.before_or_behind htoken with hbefore | hbehind
    · refine .inl ⟨(semicolonFree_before_iff hbefore).mp hpiece, ?_⟩
      intro start' stop' hstart hstop hlonger
      exact hmaximal start' stop' hstart hstop ((semicolonFree_before_iff hlonger.le).mpr hlonger)
    · obtain ⟨start, rfl⟩ : ∃ s, start = s + (front.length + 1) :=
        ⟨start - (front.length + 1), by omega⟩
      have hlt := hpiece.lt
      obtain ⟨stop, rfl⟩ : ∃ s, stop = s + (front.length + 1) :=
        ⟨stop - (front.length + 1), by omega⟩
      refine .inr ⟨start, stop, ⟨semicolonFree_behind_iff.mp hpiece, ?_⟩, rfl, rfl⟩
      intro start' stop' hstart hstop hlonger
      have := hmaximal (start' + (front.length + 1)) (stop' + (front.length + 1)) (by omega)
        (by omega) (semicolonFree_behind_iff.mpr hlonger)
      omega
  · -- A longer piece would lie on the same side, because it may not reach over the semicolon.
    rintro (⟨hpiece, hmaximal⟩ | ⟨start, stop, ⟨hpiece, hmaximal⟩, rfl, rfl⟩)
    · refine ⟨(semicolonFree_before_iff hpiece.le).mpr hpiece, ?_⟩
      intro start' stop' hstart hstop hlonger
      have hlt := hpiece.lt
      have hle := hpiece.le
      have hbefore : stop' ≤ front.length := by
        rcases hlonger.before_or_behind htoken with hbefore | hbehind <;> omega
      exact hmaximal start' stop' hstart hstop ((semicolonFree_before_iff hbefore).mp hlonger)
    · refine ⟨semicolonFree_behind_iff.mpr hpiece, ?_⟩
      intro start' stop' hstart hstop hlonger
      have hlt := hpiece.lt
      have hbehind : front.length < start' := by
        rcases hlonger.before_or_behind htoken with hbefore | hbehind <;> omega
      obtain ⟨start', rfl⟩ : ∃ s, start' = s + (front.length + 1) :=
        ⟨start' - (front.length + 1), by omega⟩
      obtain ⟨stop', rfl⟩ : ∃ s, stop' = s + (front.length + 1) :=
        ⟨stop' - (front.length + 1), by omega⟩
      have := hmaximal start' stop' (by omega) (by omega) (semicolonFree_behind_iff.mp hlonger)
      omega

/-- The run of tokens without a semicolon, if there are any. -/
def onlyRun (tokens : List Token) : List (Nat × Nat) :=
  if tokens = [] then [] else [(0, tokens.length)]

/-- The list `onlyRun` holds the run of tokens without a semicolon and
nothing else. -/
theorem mem_onlyRun_iff (hfree : ∀ t ∈ tokens, t.isSemicolon = false) :
    (start, stop) ∈ onlyRun tokens ↔ IsRun tokens start stop := by
  rw [isRun_iff_of_free hfree, onlyRun]
  split <;> simp [*]

/-- The statement of tokens without a semicolon is the piece that `onlyRun`
marks, if there are tokens at all. -/
theorem statements_of_free (hfree : ∀ t ∈ tokens, t.isSemicolon = false) :
    statements tokens = (onlyRun tokens).map fun run => piece tokens run.1 run.2 := by
  have hsplit : tokens.splitOnP (fun token => token.kind == .semicolon) = [tokens] :=
    List.splitOnP_eq_singleton hfree
  rw [statements, hsplit, onlyRun]
  cases tokens <;> simp [piece]

/-- The run before the first semicolon, `onlyRun`, is the same piece of the
tokens with what follows it as it is of those in front of it. -/
theorem map_piece_onlyRun (front rest : List Token) :
    (onlyRun front).map (fun run => piece (front ++ rest) run.1 run.2) =
      (onlyRun front).map fun run => piece front run.1 run.2 := by
  unfold onlyRun
  split <;> simp [piece]

/-- A `piece` behind a semicolon is the piece of the rest with its places
counted from there, as in `semicolonFree_behind_iff`. -/
theorem piece_behind (front : List Token) (token : Token) (rest : List Token) (start stop : Nat) :
    piece (front ++ token :: rest) (start + (front.length + 1)) (stop + (front.length + 1)) =
      piece rest start stop := by
  unfold piece
  rw [show stop + (front.length + 1) = front.length + (stop + 1) by omega,
    List.take_length_add_append, List.take_succ_cons,
    show start + (front.length + 1) = front.length + (start + 1) by omega,
    List.drop_length_add_append, List.drop_succ_cons]

end

/-- A list of tokens has no semicolon, or it has a first one. `exists_runs`
goes from semicolon to semicolon with this. -/
theorem free_or_first_semicolon (tokens : List Token) :
    (∀ t ∈ tokens, t.isSemicolon = false) ∨
      ∃ front token rest, tokens = front ++ token :: rest ∧ token.isSemicolon = true ∧
        ∀ t ∈ front, t.isSemicolon = false := by
  induction tokens with
  | nil => exact .inl nofun
  | cons first tokens ih =>
    cases hfirst : first.isSemicolon with
    | true => exact .inr ⟨[], first, tokens, rfl, hfirst, nofun⟩
    | false =>
      rcases ih with hfree | ⟨front, token, rest, rfl, htoken, hfront⟩
      · exact .inl (List.forall_mem_cons.mpr ⟨hfirst, hfree⟩)
      · exact .inr ⟨first :: front, token, rest, rfl, htoken,
          List.forall_mem_cons.mpr ⟨hfirst, hfront⟩⟩

/-- A run `n` tokens further on. -/
def moveRun (n : Nat) (run : Nat × Nat) : Nat × Nat :=
  (run.1 + n, run.2 + n)

/-- A run before a place, and after it runs that `moveRun` moves behind it,
are in order. The place itself is that of a semicolon, so the run before it
ends there and those behind it start later. -/
theorem pairwise_onlyRun_append {runs : List (Nat × Nat)}
    (hordered : runs.Pairwise fun a b => a.2 < b.1) (front : List Token) :
    (onlyRun front ++ runs.map (moveRun (front.length + 1))).Pairwise fun a b => a.2 < b.1 := by
  rw [List.pairwise_append, List.pairwise_map]
  refine ⟨?_, hordered.imp ?_, ?_⟩
  · unfold onlyRun
    split <;> simp
  · intro a b hab
    show a.2 + (front.length + 1) < b.1 + (front.length + 1)
    omega
  · intro run hrun moved hmoved
    obtain ⟨old, -, rfl⟩ := List.mem_map.mp hmoved
    -- The first run ends at the semicolon, and the others start behind it.
    have hstop : run.2 = front.length := by
      unfold onlyRun at hrun
      split at hrun
      · cases hrun
      · rw [List.mem_singleton.mp hrun]
    show run.2 < old.1 + (front.length + 1)
    omega

/-- The statements of a list of tokens are its runs, each once and in order.
Each step takes the tokens up to the first semicolon off the front and
moves the runs of the rest behind them with `isRun_append_cons_iff`. -/
theorem exists_runs (tokens : List Token) :
    ∃ runs : List (Nat × Nat),
      runs.Pairwise (fun a b => a.2 < b.1) ∧
        (∀ start stop, (start, stop) ∈ runs ↔ IsRun tokens start stop) ∧
        statements tokens = runs.map fun run => piece tokens run.1 run.2 := by
  -- By induction on the length, since what follows a semicolon is no tail in general.
  induction hlength : tokens.length using Nat.strongRecOn generalizing tokens with
  | ind length ih =>
    subst hlength
    rcases free_or_first_semicolon tokens with hfree | ⟨front, token, rest, rfl, htoken, hfree⟩
    · refine ⟨onlyRun tokens, ?_, fun start stop => mem_onlyRun_iff hfree,
        statements_of_free hfree⟩
      unfold onlyRun
      split <;> simp
    · obtain ⟨runs, hordered, hmem, hstatements⟩ :=
        ih rest.length (by simp only [List.length_append, List.length_cons]; omega) rest rfl
      refine ⟨onlyRun front ++ runs.map (moveRun (front.length + 1)),
        pairwise_onlyRun_append hordered front, ?_, ?_⟩
      · intro start stop
        rw [List.mem_append, isRun_append_cons_iff htoken, mem_onlyRun_iff hfree, List.mem_map]
        refine or_congr Iff.rfl ⟨?_, ?_⟩
        · rintro ⟨⟨start', stop'⟩, hrun, heq⟩
          obtain ⟨rfl, rfl⟩ := Prod.mk.inj heq
          exact ⟨start', stop', (hmem start' stop').mp hrun, rfl, rfl⟩
        · rintro ⟨start', stop', hrun, rfl, rfl⟩
          exact ⟨(start', stop'), (hmem start' stop').mpr hrun, rfl⟩
      · have hmoved : (runs.map (moveRun (front.length + 1))).map
              (fun run => piece (front ++ token :: rest) run.1 run.2) =
            runs.map fun run => piece rest run.1 run.2 := by
          rw [List.map_map]
          exact List.map_congr_left fun run _ => piece_behind front token rest run.1 run.2
        rw [statements_append_cons front htoken, statements_of_free hfree, hstatements,
          List.map_append, map_piece_onlyRun, hmoved]

end SchemaTypes.Sql
