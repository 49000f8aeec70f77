import SchemaTypes.Proofs.Generate.Schedules

/-!
# `SchemaTypes.Proofs.Generate.InputsFirst`: inputs are read before anything is written

A run compiles its inputs and only then writes. So a run that ends because
of an input has changed nothing, and what a run writes is compiled from what
the inputs held in the first place, even where an artifact replaces one of
them.

The failures of writing are told apart from those of an input by their
codes (`Failure.OfInput`). What a run has written is told by the invariants
of its session, which hold for every other order of writing as well
(`Working.keeps`).
-/

set_option autoImplicit false

namespace SchemaTypes

/-! ## Failures of an input and failures of writing -/

/-- The codes of the failures that the inputs of a run can give. -/
def inputCodes : List String :=
  ["INPUT_READ_ERROR", "CONFIGURATION_ERROR", "SOURCE_PARSE_ERROR"]

/-- A failure that an input is to blame for. -/
def Failure.OfInput (failure : Failure) : Prop :=
  ∃ code ∈ inputCodes, failure.code? = some code

/-- No input is to blame for a path that cannot be written. It has a null
character and no code, or was refused with a code that is not among the
`inputCodes`. -/
theorem not_ofInput_ofWriteFault (path : String) (fault : FileSystem.WriteFault) :
    ¬(Failure.ofWriteFault path fault).OfInput := by
  rintro ⟨code, hmem, hcode⟩
  cases fault with
  | nullInPath => exact nomatch hcode
  | refused =>
    obtain rfl := Option.some.inj hcode
    revert hmem
    decide

section

variable {files : FileSystem} {failure : Failure}

/-- The failure of an artifact is that of one of its paths, so
`not_ofInput_ofWriteFault` applies to it. -/
theorem not_ofInput_writePaths {contents : String} {paths : List Path}
    (h : (writePaths files contents paths).2 = some failure) : ¬failure.OfInput := by
  induction paths generalizing files with
  | nil => exact nomatch h
  | cons p paths ih =>
    unfold writePaths at h
    generalize files.write p contents = result at h
    obtain ⟨files', fault | fault⟩ := result
    · exact ih h
    · obtain rfl := Option.some.inj h
      exact not_ofInput_ofWriteFault p.text fault

/-- The failure of plain artifacts is that of the first of them that has
failed, and so one of `not_ofInput_writePaths`. -/
theorem not_ofInput_writeAll {artifacts : List Artifact}
    (h : (writeAll files artifacts).failed = some failure) : ¬failure.OfInput := by
  induction artifacts generalizing files with
  | nil => exact nomatch h
  | cons a artifacts ih =>
    have hsome : ((a.write files).2 <|> (writeAll (a.write files).1 artifacts).failed) =
        some failure := h
    cases hfirst : (a.write files).2 with
    | none =>
      rw [hfirst] at hsome
      exact ih hsome
    | some first =>
      rw [hfirst] at hsome
      obtain rfl := Option.some.inj hsome
      exact not_ofInput_writePaths hfirst

/-- The failure of barrels is that of the one that has ended the run, and so
one of `not_ofInput_writePaths`. -/
theorem not_ofInput_writeInOrder {barrels : List Artifact}
    (h : (writeInOrder files barrels).failed = some failure) : ¬failure.OfInput := by
  induction barrels generalizing files with
  | nil => exact nomatch h
  | cons a barrels ih =>
    unfold writeInOrder at h
    cases hwrite : a.write files with
    | mk files' failed =>
      rw [hwrite] at h
      cases failed with
      | none => exact ih h
      | some first =>
        obtain rfl := Option.some.inj h
        exact not_ofInput_writePaths (congrArg Prod.snd hwrite)

/-- No input is to blame for a failure of writing, be it that of a plain
artifact (`not_ofInput_writeAll`) or that of a barrel
(`not_ofInput_writeInOrder`). -/
theorem not_ofInput_writeRun {artifacts barrels : List Artifact}
    (h : (writeRun files artifacts barrels).failed = some failure) : ¬failure.OfInput := by
  unfold writeRun at h
  cases hplain : (writeAll files artifacts).failed with
  | some first =>
    simp only [hplain] at h
    exact not_ofInput_writeAll (hplain.trans h)
  | none =>
    simp only [hplain] at h
    exact not_ofInput_writeInOrder h

end

/-! ## What is written is what was asked for -/

/-- Files that have changed only as a compiled source and its targets say. A
place that has changed is the destination of a path that was asked for, or a
directory where nothing was. And a path that is the only one with its
destination, apart from others of its kind, holds the artifact of its kind. -/
structure Keeps (files : FileSystem) (t : Targets) (c : Compiled) (after : FileSystem) : Prop where
  changed : ∀ x, after.entry? x ≠ files.entry? x →
    (∃ kind, ∃ p ∈ t.paths kind, files.destination p = x) ∨
      files.entry? x = none ∧ after.entry? x = some .directory
  rendered : ∀ kind ∈ ArtifactKind.plain, ∀ p ∈ t.paths kind,
    (∀ other, other ≠ kind → ∀ q ∈ t.paths other, files.destination q ≠ files.destination p) →
      after.entry? (files.destination p) = some (.text (c.render kind))

section

variable {c : Compiled} {t : Targets} {working : List String} {a : Artifact}

/-- Each artifact of a run has paths that were asked for its kind, and the
text that `Compiled.render` gives for its kind. The text of a barrel is not
among those that are compiled. -/
theorem Compiled.of_mem_artifacts (h : a ∈ c.artifacts t ++ t.barrels working) :
    (∀ p ∈ a.paths, p ∈ t.paths a.kind) ∧ (a.kind ≠ .barrel → a.contents = c.render a.kind) := by
  rcases List.mem_append.mp h with h | h
  · obtain ⟨kind, -, rfl⟩ := List.mem_map.mp h
    exact ⟨fun _ => id, fun _ => rfl⟩
  · obtain ⟨path, hpath, rfl⟩ := List.mem_map.mp h
    refine ⟨?_, fun hkind => absurd rfl hkind⟩
    intro p hp
    rw [List.mem_singleton.mp hp]
    exact hpath

/-- Each kind with a path that was asked for has an artifact, with all of
the paths of the kind (`Targets.paths`). -/
theorem Compiled.mem_artifacts {kind : ArtifactKind} (hkind : kind ∈ ArtifactKind.plain) {p : Path}
    (hp : p ∈ t.paths kind) : ⟨kind, t.paths kind, c.render kind⟩ ∈ c.artifacts t := by
  refine List.mem_map.mpr ⟨kind, List.mem_filter.mpr ⟨hkind, ?_⟩, rfl⟩
  unfold Targets.requests
  cases hpaths : t.paths kind with
  | nil =>
    rw [hpaths] at hp
    cases hp
  | cons => rfl

/-- Writers of a run that have all finished keep to what was asked for. What
was changed is told by `Accounted`, whatever the order of their turns. -/
theorem Working.keeps {fails : Path → Prop} {files after : FileSystem} {ws : List Writer}
    (h : Working fails files after ws) (hfinished : ∀ w ∈ ws, w.Finished)
    (hartifacts : ws.map Writer.artifact = c.artifacts t ++ t.barrels working) :
    Keeps files t c after := by
  have hasked : ∀ {a p}, Wrote ws a p →
      p ∈ t.paths a.kind ∧ (a.kind ≠ .barrel → a.contents = c.render a.kind) := by
    intro a p hp
    obtain ⟨ha, hp⟩ := h.mem_of_wrote hp
    rw [hartifacts] at ha
    exact (Compiled.of_mem_artifacts ha).imp (fun hpaths => hpaths p hp) id
  refine ⟨?_, ?_⟩
  · intro x hne
    rcases h.accounted.told x with hsame | ⟨a, p, hp, heq, -⟩ | ⟨hnone, -, hmade, -⟩
    · exact absurd hsame hne
    · exact .inl ⟨a.kind, p, (hasked hp).1, heq⟩
    · exact .inr ⟨hnone, hmade⟩
  · intro kind hkind p hp halone
    have hmem : (⟨kind, t.paths kind, c.render kind⟩ : Artifact) ∈ ws.map Writer.artifact := by
      rw [hartifacts]
      exact List.mem_append_left _ (Compiled.mem_artifacts hkind hp)
    obtain ⟨b, q, hb, heq, hentry⟩ := h.accounted.held (h.wrote hfinished hmem hp)
    -- Only an artifact of the same kind has a path with this destination.
    obtain ⟨hq, hcontents⟩ := hasked hb
    have hbkind : b.kind = kind := by
      by_cases hsame : b.kind = kind
      · exact hsame
      · exact absurd heq (halone b.kind hsame q hq)
    have hplain : b.kind ≠ .barrel := by
      rw [hbkind]
      rintro rfl
      revert hkind
      decide
    rw [hentry, hcontents hplain, hbkind]

end

/-! ## Runs -/

section

variable (r : Request) (files : FileSystem)

/-- What a run writes, once its inputs are compiled. -/
def Request.written (c : Compiled) : Written :=
  writeRun files (c.artifacts r.targets) (r.targets.barrels files.working)

/-- A run fails on an input and leaves the files alone, or it fails to
write, or it ends well with the files that `Request.written` gives. -/
theorem Request.run_cases :
    (∃ failure, (r.run files).1.result = .error failure ∧ (r.run files).2 = files) ∨
    (∃ c failure, (r.written files c).failed = some failure ∧
      (r.run files).1.result = .error failure) ∨
    ∃ c, (r.compile files).result = .ok c ∧ (r.written files c).failed = none ∧
      (r.run files).1.result = .ok c ∧ (r.run files).2 = (r.written files c).files := by
  -- The cases are those of compiling and then those of writing.
  cases hcompiled : (r.compile files).result with
  | error failure =>
    left
    refine ⟨failure, ?_⟩
    simp [Request.run, hcompiled]
  | ok c =>
    right
    unfold Request.written
    cases hfailed : (writeRun files (c.artifacts r.targets)
        (r.targets.barrels files.working)).failed with
    | some failure =>
      left
      refine ⟨c, failure, hfailed, ?_⟩
      simp [Request.run, hcompiled, hfailed]
    | none =>
      right
      refine ⟨c, rfl, hfailed, ?_⟩
      simp [Request.run, hcompiled, hfailed]

end

/-- A run that ends because of an input leaves the file system as it was. A
run that ends well has compiled its inputs as they were before it, and has
changed nothing but what it was asked for; and so has every other order of
writing that comes to its end. -/
theorem Request.run_inputs_first (r : Request) (files : FileSystem) :
    (∀ failure, (r.run files).1.result = .error failure → failure.OfInput →
      (r.run files).2 = files) ∧
    ∀ c, (r.run files).1.result = .ok c →
      (r.compile files).result = .ok c ∧ Keeps files r.targets c (r.run files).2 ∧
      ∀ fails s, Session.Reaches fails
          (.start files (c.artifacts r.targets) (r.targets.barrels files.working)) s →
        s.Complete → Keeps files r.targets c s.files := by
  rcases r.run_cases files with ⟨failure, herror, hfiles⟩ | ⟨c, failure, hfailed, herror⟩ |
    ⟨c, hcompiled, hfailed, hok, hfiles⟩
  · exact ⟨fun _ _ _ => hfiles, fun c hok => nomatch herror.symm.trans hok⟩
  · -- The failure is one of writing, for which no input is to blame.
    refine ⟨?_, fun c hok => nomatch herror.symm.trans hok⟩
    intro failure' herror' hinput
    obtain rfl := Except.error.inj (herror.symm.trans herror')
    exact absurd hinput (not_ofInput_writeRun hfailed)
  · refine ⟨fun failure herror => (nomatch hok.symm.trans herror), ?_⟩
    intro c' hok'
    obtain rfl := Except.ok.inj (hok.symm.trans hok')
    have hkeeps : ∀ fails s, Session.Reaches fails
          (.start files (c.artifacts r.targets) (r.targets.barrels files.working)) s →
        s.Complete → Keeps files r.targets c s.files :=
      fun fails s hreaches hcomplete => hreaches.working.keeps hcomplete hreaches.ordered.all
    -- The run itself is one of these sessions.
    have hallowed : ∀ a ∈ c.artifacts r.targets ++ r.targets.barrels files.working,
        ∀ p ∈ a.paths, ¬(fun _ : Path => False) p := fun _ _ _ _ => id
    obtain ⟨s, hreaches, hover, hsame, hunfailing⟩ := exists_session_writeRun files hallowed
    have hrun := hkeeps _ s hreaches (hover.complete (hunfailing.mp hfailed))
    rw [hsame] at hrun
    rw [hfiles]
    exact ⟨hcompiled, hrun, hkeeps⟩

/-- A source, and a type map. -/
def sourceAndMap : FileSystem :=
  { entries := [(["w", "schema.sql"], .text "CREATE TYPE m AS ENUM ('a');"),
      (["w", "types.json"], .text "\x7b\x7d")], working := ["w"] }

/-- A request to replace the source and the type map by artifacts. -/
def replacing (sources : List String) : Request where
  settings := { typeMapFiles := [⟨"", ["types.json"]⟩] }
  targets := ⟨fun
    | .typeScript => [⟨"", ["schema.sql"]⟩, ⟨"", ["out", "types.ts"]⟩]
    | .typeMap => [⟨"", ["types.json"]⟩]
    | _ => []⟩
  sourceFiles := sources

/-- A source that is replaced by an artifact was read before. And if one of
two sources cannot be read, the other is not replaced. -/
theorem Request.run_inputs_first_replacing :
    (∃ failure, ((replacing ["schema.sql", "none.sql"]).run sourceAndMap).1.result =
        .error failure ∧ failure.OfInput ∧
      ((replacing ["schema.sql", "none.sql"]).run sourceAndMap).2 = sourceAndMap) ∧
    ∃ c, ((replacing ["schema.sql"]).run sourceAndMap).1.result = .ok c ∧
      ((replacing ["schema.sql"]).compile sourceAndMap).result = .ok c ∧
      FileSystem.entry? ((replacing ["schema.sql"]).run sourceAndMap).2 ["w", "schema.sql"] =
        some (.text (Emit.typeScript c.model.records)) ∧
      FileSystem.entry? ((replacing ["schema.sql"]).run sourceAndMap).2 ["w", "types.json"] =
        some (.text (Emit.typeMapDocument c.model)) := by
  refine ⟨?_, ?_⟩
  · have herror : ((replacing ["schema.sql", "none.sql"]).run sourceAndMap).1.result =
        .error (.unreadable "none.sql") := rfl
    have hinput : (Failure.unreadable "none.sql").OfInput :=
      ⟨"INPUT_READ_ERROR", by decide, rfl⟩
    exact ⟨_, herror, hinput,
      (Request.run_inputs_first (replacing ["schema.sql", "none.sql"]) sourceAndMap).1 _ herror
        hinput⟩
  · have hisOk : ((replacing ["schema.sql"]).run sourceAndMap).1.result.isOk = true := rfl
    cases hok : ((replacing ["schema.sql"]).run sourceAndMap).1.result with
    | error failure =>
      rw [hok] at hisOk
      cases hisOk
    | ok c =>
      obtain ⟨hcompiled, hkeeps, -⟩ :=
        (Request.run_inputs_first (replacing ["schema.sql"]) sourceAndMap).2 c hok
      have hall : ∀ kind : ArtifactKind, kind ∈ ArtifactKind.all := by
        intro kind
        cases kind <;> decide
      -- Each of the two kinds has its paths for itself.
      have halone : ∀ kind ∈ [ArtifactKind.typeScript, .typeMap],
          ∀ p ∈ (replacing []).targets.paths kind, ∀ other ∈ ArtifactKind.all, other ≠ kind →
            ∀ q ∈ (replacing []).targets.paths other,
              sourceAndMap.destination q ≠ sourceAndMap.destination p := by
        decide
      have hsource := hkeeps.rendered .typeScript (by decide) _ List.mem_cons_self fun other =>
        halone .typeScript (by decide) _ List.mem_cons_self other (hall other)
      have hmap := hkeeps.rendered .typeMap (by decide) _ List.mem_cons_self fun other =>
        halone .typeMap (by decide) _ List.mem_cons_self other (hall other)
      exact ⟨c, rfl, hcompiled, hsource, hmap⟩

end SchemaTypes
